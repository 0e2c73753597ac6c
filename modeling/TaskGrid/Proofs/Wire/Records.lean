import TaskGrid.Proofs.Wire.Fields
import TaskGrid.Wire.Schema

/-! What the encoding of a message is made of: one record for each field that is written, in the order of the
schema. If the numbers of the schema can be told apart, each record is read as the field that it is. -/
namespace TaskGrid.Wire

inductive Record where
  | varint (number : Nat) (value : UInt64)
  | octets (number : Nat) (bytes : Octets)
  deriving DecidableEq, Repr

namespace Record

def number : Record → Nat
  | .varint n _ => n
  | .octets n _ => n

def field : Record → Field
  | .varint n v => ⟨n, .varint v.toNat⟩
  | .octets n b => ⟨n, .octets b⟩

def write : Record → Octets
  | .varint n v => Key.write ⟨n, .varint⟩ ++ Varint.write v.toNat
  | .octets n b => writeDelimited n b

def isDelimited : Record → Bool
  | .varint _ _ => false
  | .octets _ _ => true

/-- The number of bytes, if one stands in front of them, is one of 64 bits. -/
def Fits : Record → Prop
  | .varint _ _ => True
  | .octets _ b => b.length < UInt64.size

instance : DecidablePred Fits
  | .varint _ _ => inferInstanceAs (Decidable True)
  | .octets _ b => inferInstanceAs (Decidable (b.length < UInt64.size))

@[simp] theorem number_field (r : Record) : r.field.number = r.number := by cases r <;> rfl

theorem spells_key {number : Nat} (hpos : 0 < number) (hfits : number ≤ maxNumber)
    (framing : Framing) : Key.Spells (Key.write ⟨number, framing⟩) ⟨number, framing⟩ where
  digits := by
    have hlt := framing.toNat_lt
    have hkey : 8 * number + framing.toNat < UInt64.size := by
      rw [maxNumber] at hfits
      rw [UInt64.size]
      omega
    exact Varint.spells_write hkey
  positive := hpos
  fits := hfits

/-- A record is read as its field; one that a table has must be delimited. -/
theorem reads {r : Record} (hpos : 0 < r.number) (hfits : r.number ≤ maxNumber) (hsize : r.Fits)
    {tables : List Nat} (htables : r.number ∈ tables → r.isDelimited) (limit : Nat) :
    Reads tables limit r.write [r.field] := by
  refine .field fun rest => ?_
  cases r with
  | varint number value =>
    have hnot : number ∉ tables := fun hmem => Bool.false_ne_true (htables hmem)
    have hkey : Key.Spells (Key.write ⟨number, .varint⟩) ⟨number, .varint⟩ :=
      spells_key hpos hfits .varint
    have hvalue : Varint.Spells (Varint.write value.toNat) value.toNat :=
      Varint.spells_write value.toNat_lt
    rw [write, List.append_assoc, Field.read, hkey.read]
    simp only [Option.bind_some, if_neg hnot]
    rw [if_neg (by simp), readPlain, hvalue.read]
    rfl
  | octets number bytes =>
    have hkey : Key.Spells (Key.write ⟨number, .delimited⟩) ⟨number, .delimited⟩ :=
      spells_key hpos hfits .delimited
    have hread := readDelimited_append (Varint.spells_write hsize) rest
    rw [write, writeDelimited, List.append_assoc, List.append_assoc, Field.read, hkey.read]
    simp only [Option.bind_some]
    split
    · rw [hread]
      rfl
    · rw [if_neg (by simp), readPlain, hread]
      rfl

theorem reads_flatMap {tables : List Nat} {limit : Nat} {rs : List Record}
    (h : ∀ r ∈ rs, Reads tables limit r.write [r.field]) :
    Reads tables limit (rs.flatMap write) (rs.map field) := by
  induction rs with
  | nil => exact .nil
  | cons r rs ih =>
    obtain ⟨hr, hrs⟩ := List.forall_mem_cons.mp h
    rw [List.flatMap_cons, List.map_cons]
    exact .cons hr (ih hrs)

end Record

namespace Scalar

def record (number : Nat) : (t : Scalar) → t.Value → Record
  | .int32, x => .varint number (.ofNat (unsigned (Int32.toInt x)))
  | .int64, x => .varint number (.ofNat (unsigned (Int64.toInt x)))
  | .text, x => .octets number (Utf8.encode x)
  | .octets, x => .octets number x

/-- The record of a plain field, which is left out if it is that of a field that is not written. -/
def records (number : Nat) (t : Scalar) (x : t.Value) : List Record :=
  if t.isZero x then [] else [t.record number x]

@[simp] theorem number_record (number : Nat) (t : Scalar) (x : t.Value) :
    (t.record number x).number = number := by cases t <;> rfl

theorem toInt_unsigned (i : Int) : (unsigned i : Int) = i % UInt64.size := by
  refine Int.toNat_of_nonneg ?_
  rw [UInt64.size]
  omega

theorem toNat_unsigned (i : Int) : (UInt64.ofNat (unsigned i)).toNat = unsigned i := by
  have h := toInt_unsigned i
  refine UInt64.toNat_ofNat_of_lt' ?_
  rw [UInt64.size] at h ⊢
  omega

theorem write_record (number : Nat) (t : Scalar) (x : t.Value) :
    (t.record number x).write = writeScalar number t x := by
  cases t with
  | int32 => rw [record, Record.write, toNat_unsigned]; rfl
  | int64 => rw [record, Record.write, toNat_unsigned]; rfl
  | text => exact List.append_assoc ..
  | octets => exact List.append_assoc ..

theorem flatMap_records (number : Nat) (t : Scalar) (x : t.Value) :
    (t.records number x).flatMap Record.write = writeNonzero number t x := by
  rw [records, writeNonzero]
  split
  · rfl
  · rw [List.flatMap_singleton, write_record]

theorem number_of_mem_records {number : Nat} {t : Scalar} {x : t.Value} {r : Record}
    (h : r ∈ t.records number x) : r.number = number := by
  rw [records] at h
  split at h
  · cases h
  · rw [List.mem_singleton.mp h, number_record]

theorem eq_zero_of_isZero {t : Scalar} {x : t.Value} (h : t.isZero x) : x = t.zero := by
  cases t <;> simpa [isZero, zero] using h

/-- A plain value is read back from its field; integers keep their sign. -/
theorem read?_record (number : Nat) (t : Scalar) (x : t.Value) :
    t.read? (t.record number x).field.content = some x := by
  cases t with
  | int32 =>
    have hlow := Int32.le_toInt x
    have hhigh := Int32.toInt_lt x
    refine congrArg some (Int32.toInt_inj.mp ?_)
    rw [toNat_unsigned, Int32.toInt_ofInt, toInt_unsigned, Int.bmod_def, UInt64.size, Int32.size]
    omega
  | int64 =>
    have hlow := Int64.le_toInt x
    have hhigh := Int64.toInt_lt x
    refine congrArg some (Int64.toInt_inj.mp ?_)
    rw [toNat_unsigned, Int64.toInt_ofInt, toInt_unsigned, Int.bmod_def, UInt64.size, Int64.size]
    omega
  | text => exact congrArg Except.toOption (Utf8.decode_encode x)
  | octets => rfl

end Scalar

namespace Schema

def numbers : Schema → List Nat
  | .done => []
  | .scalar n _ _ rest | .texts n _ rest | .table n _ rest | .message n _ _ rest
  | .messages n _ _ rest => n :: rest.numbers
  | .choice _ cases rest => cases.numbers ++ rest.numbers

theorem mergeCase_of_not_mem {s : Schema} {f : Field} (h : f.number ∉ s.numbers) (limit : Nat)
    (c : Option s.Case) : s.mergeCase limit f c = none := by
  induction s with
  | done => rfl
  | scalar n _ t rest ih | message n _ body rest _ ih =>
    obtain ⟨hn, hrest⟩ := not_or.mp (mt List.mem_cons.mpr h)
    rw [mergeCase, if_neg hn, ih hrest, Option.map_none]
  | texts n _ rest ih | table n _ rest ih | messages n _ body rest _ ih =>
    exact ih (mt (List.mem_cons_of_mem _) h) c
  | choice _ cases rest _ ih => exact ih (mt (List.mem_append_right _) h) c

/-- A field that a message does not have changes nothing. -/
theorem merge_of_not_mem {s : Schema} {f : Field} (h : f.number ∉ s.numbers) (limit : Nat)
    (v : s.Value) : s.merge limit f v = some v := by
  induction s with
  | done => rfl
  | scalar n _ t rest ih | texts n _ rest ih | table n _ rest ih | message n _ body rest _ ih
  | messages n _ body rest _ ih =>
    obtain ⟨hn, hrest⟩ := not_or.mp (mt List.mem_cons.mpr h)
    obtain ⟨x, xs⟩ := v
    rw [merge, if_neg hn, ih hrest]
    rfl
  | choice _ cases rest _ ih =>
    obtain ⟨hcases, hrest⟩ := not_or.mp (mt List.mem_append.mpr h)
    obtain ⟨x, xs⟩ := v
    rw [merge, mergeCase_of_not_mem hcases]
    dsimp only
    rw [ih hrest]
    rfl

/-- Every field has a number of its own, which fits a key; so it is in the messages inside. -/
def WellNumbered : Schema → Prop
  | .done => True
  | .scalar n _ _ rest | .texts n _ rest | .table n _ rest =>
    0 < n ∧ n ≤ maxNumber ∧ n ∉ rest.numbers ∧ rest.WellNumbered
  | .message n _ body rest | .messages n _ body rest =>
    0 < n ∧ n ≤ maxNumber ∧ n ∉ rest.numbers ∧ body.WellNumbered ∧ rest.WellNumbered
  | .choice _ cases rest =>
    (∀ n ∈ cases.numbers, n ∉ rest.numbers) ∧ cases.WellNumbered ∧ rest.WellNumbered

instance decidableWellNumbered : (s : Schema) → Decidable s.WellNumbered
  | .done => inferInstanceAs (Decidable True)
  | .scalar n _ _ rest | .texts n _ rest | .table n _ rest =>
    have := decidableWellNumbered rest
    inferInstanceAs (Decidable (0 < n ∧ n ≤ maxNumber ∧ n ∉ rest.numbers ∧ rest.WellNumbered))
  | .message n _ body rest | .messages n _ body rest =>
    have := decidableWellNumbered body
    have := decidableWellNumbered rest
    inferInstanceAs (Decidable
      (0 < n ∧ n ≤ maxNumber ∧ n ∉ rest.numbers ∧ body.WellNumbered ∧ rest.WellNumbered))
  | .choice _ cases rest =>
    have := decidableWellNumbered cases
    have := decidableWellNumbered rest
    inferInstanceAs (Decidable
      ((∀ n ∈ cases.numbers, n ∉ rest.numbers) ∧ cases.WellNumbered ∧ rest.WellNumbered))

mutual

def records : (s : Schema) → s.Value → List Record
  | .done, _ => []
  | .scalar n _ t rest, (x, xs) => t.records n x ++ rest.records xs
  | .texts n _ rest, (x, xs) => x.map (fun t => .octets n (Utf8.encode t)) ++ rest.records xs
  | .table n _ rest, (x, xs) =>
    x.entries.map (fun e => .octets n (entry.encode (e.1, e.2, ()))) ++ rest.records xs
  | .message n _ body rest, (x, xs) =>
    x.toList.map (fun v => .octets n (body.encode v)) ++ rest.records xs
  | .messages n _ body rest, (x, xs) => x.map (fun v => .octets n (body.encode v)) ++ rest.records xs
  | .choice _ cases rest, (x, xs) => x.toList.map cases.caseRecord ++ rest.records xs

def caseRecord : (s : Schema) → s.Case → Record
  | .scalar n _ t _, .inl x => t.record n x
  | .scalar _ _ _ rest, .inr c => rest.caseRecord c
  | .message n _ body _, .inl v => .octets n (body.encode v)
  | .message _ _ _ rest, .inr c => rest.caseRecord c
  | .texts _ _ rest, c => rest.caseRecord c
  | .table _ _ rest, c => rest.caseRecord c
  | .messages _ _ _ rest, c => rest.caseRecord c
  | .choice _ _ rest, c => rest.caseRecord c

end

/-- The records are what is written: first all of a message, then a case of a choice. -/
theorem flatMap_records (s : Schema) :
    (∀ v : s.Value, (s.records v).flatMap Record.write = s.encode v) ∧
      ∀ c : s.Case, (s.caseRecord c).write = s.encodeCase c := by
  induction s with
  | done => exact ⟨fun _ => rfl, fun c => nomatch c⟩
  | scalar n _ t rest ih =>
    refine ⟨fun (x, xs) => ?_, fun c => ?_⟩
    · rw [records, List.flatMap_append, Scalar.flatMap_records, ih.1, encode]
    · cases c with
      | inl x => exact t.write_record n x
      | inr c => exact ih.2 c
  | texts n _ rest ih =>
    refine ⟨fun (x, xs) => ?_, ih.2⟩
    rw [records, List.flatMap_append, List.flatMap_map, ih.1, encode]
    rfl
  | table n _ rest ih =>
    refine ⟨fun (x, xs) => ?_, ih.2⟩
    rw [records, List.flatMap_append, List.flatMap_map, ih.1, encode]
    simp only [Record.write, entry, encode, List.append_nil]
  | message n _ body rest _ ih =>
    refine ⟨fun (x, xs) => ?_, fun c => ?_⟩
    · rw [records, List.flatMap_append, List.flatMap_map, ih.1]
      cases x <;> simp [encode, Record.write]
    · cases c with
      | inl v => rfl
      | inr c => exact ih.2 c
  | messages n _ body rest _ ih =>
    refine ⟨fun (x, xs) => ?_, ih.2⟩
    rw [records, List.flatMap_append, List.flatMap_map, ih.1, encode]
    rfl
  | choice _ cases rest ihcases ih =>
    refine ⟨fun (x, xs) => ?_, ih.2⟩
    rw [records, List.flatMap_append, List.flatMap_map, ih.1]
    cases x <;> simp [encode, ihcases.2]

theorem mem_numbers_of_mem_tables {s : Schema} {n : Nat} (h : n ∈ s.tables) : n ∈ s.numbers := by
  induction s with
  | done => cases h
  | scalar _ _ _ rest ih => exact List.mem_cons_of_mem _ (ih h)
  | texts _ _ rest ih => exact List.mem_cons_of_mem _ (ih h)
  | table m _ rest ih =>
    rcases List.mem_cons.mp h with rfl | h
    · exact List.mem_cons_self
    · exact List.mem_cons_of_mem _ (ih h)
  | message _ _ body rest _ ih => exact List.mem_cons_of_mem _ (ih h)
  | messages _ _ body rest _ ih => exact List.mem_cons_of_mem _ (ih h)
  | choice _ cases rest _ ih => exact List.mem_append_right _ (ih h)

theorem WellNumbered.bounds {s : Schema} (h : s.WellNumbered) {n : Nat} (hn : n ∈ s.numbers) :
    0 < n ∧ n ≤ maxNumber := by
  induction s with
  | done => cases hn
  | scalar m _ _ rest ih | texts m _ rest ih | table m _ rest ih =>
    obtain ⟨hpos, hfits, -, hrest⟩ := h
    rcases List.mem_cons.mp hn with rfl | hn
    · exact ⟨hpos, hfits⟩
    · exact ih hrest hn
  | message m _ body rest _ ih | messages m _ body rest _ ih =>
    obtain ⟨hpos, hfits, -, -, hrest⟩ := h
    rcases List.mem_cons.mp hn with rfl | hn
    · exact ⟨hpos, hfits⟩
    · exact ih hrest hn
  | choice _ cases rest ihcases ih =>
    obtain ⟨-, hcases, hrest⟩ := h
    rcases List.mem_append.mp hn with hn | hn
    · exact ihcases hcases hn
    · exact ih hrest hn

theorem number_mem_numbers (s : Schema) :
    (∀ v : s.Value, ∀ r ∈ s.records v, r.number ∈ s.numbers) ∧
      ∀ c : s.Case, (s.caseRecord c).number ∈ s.numbers := by
  induction s with
  | done => exact ⟨fun _ r hr => (List.not_mem_nil hr).elim, fun c => nomatch c⟩
  | scalar n _ t rest ih =>
    refine ⟨fun (x, xs) r hr => ?_, fun c => ?_⟩
    · rcases List.mem_append.mp hr with hr | hr
      · exact List.mem_cons.mpr (.inl (Scalar.number_of_mem_records hr))
      · exact List.mem_cons_of_mem _ (ih.1 xs r hr)
    · cases c with
      | inl x => exact List.mem_cons.mpr (.inl (t.number_record n x))
      | inr c => exact List.mem_cons_of_mem _ (ih.2 c)
  | texts n _ rest ih | table n _ rest ih | messages n _ body rest _ ih =>
    refine ⟨fun (x, xs) r hr => ?_, fun c => List.mem_cons_of_mem _ (ih.2 c)⟩
    rcases List.mem_append.mp hr with hr | hr
    · obtain ⟨a, -, rfl⟩ := List.mem_map.mp hr
      exact List.mem_cons_self
    · exact List.mem_cons_of_mem _ (ih.1 xs r hr)
  | message n _ body rest _ ih =>
    refine ⟨fun (x, xs) r hr => ?_, fun c => ?_⟩
    · rcases List.mem_append.mp hr with hr | hr
      · obtain ⟨a, -, rfl⟩ := List.mem_map.mp hr
        exact List.mem_cons_self
      · exact List.mem_cons_of_mem _ (ih.1 xs r hr)
    · cases c with
      | inl v => exact List.mem_cons_self
      | inr c => exact List.mem_cons_of_mem _ (ih.2 c)
  | choice _ cases rest ihcases ih =>
    refine ⟨fun (x, xs) r hr => ?_, fun c => List.mem_append_right _ (ih.2 c)⟩
    rcases List.mem_append.mp hr with hr | hr
    · obtain ⟨c, -, rfl⟩ := List.mem_map.mp hr
      exact List.mem_append_left _ (ihcases.2 c)
    · exact List.mem_append_right _ (ih.1 xs r hr)

/-- Only the records of a table have its number. -/
theorem isDelimited_of_mem_tables {s : Schema} (h : s.WellNumbered) {v : s.Value} {r : Record}
    (hr : r ∈ s.records v) (hn : r.number ∈ s.tables) : r.isDelimited := by
  induction s with
  | done => cases hr
  | scalar n _ t rest ih =>
    obtain ⟨-, -, hnew, hrest⟩ := h
    rcases List.mem_append.mp hr with hr | hr
    · rw [Scalar.number_of_mem_records hr] at hn
      have hn : n ∈ rest.tables := hn
      exact absurd (mem_numbers_of_mem_tables hn) hnew
    · exact ih hrest hr hn
  | texts n _ rest ih =>
    rcases List.mem_append.mp hr with hr | hr
    · obtain ⟨a, -, rfl⟩ := List.mem_map.mp hr
      rfl
    · exact ih h.2.2.2 hr hn
  | table n _ rest ih =>
    obtain ⟨-, -, hnew, hrest⟩ := h
    rcases List.mem_append.mp hr with hr | hr
    · obtain ⟨a, -, rfl⟩ := List.mem_map.mp hr
      rfl
    · rcases List.mem_cons.mp hn with hn | hn
      · exact absurd (hn ▸ (number_mem_numbers rest).1 _ r hr) hnew
      · exact ih hrest hr hn
  | message n _ body rest _ ih | messages n _ body rest _ ih =>
    rcases List.mem_append.mp hr with hr | hr
    · obtain ⟨a, -, rfl⟩ := List.mem_map.mp hr
      rfl
    · exact ih h.2.2.2.2 hr hn
  | choice _ cases rest _ ih =>
    obtain ⟨hdisjoint, -, hrest⟩ := h
    rcases List.mem_append.mp hr with hr | hr
    · obtain ⟨c, -, rfl⟩ := List.mem_map.mp hr
      have hn : (cases.caseRecord c).number ∈ rest.tables := hn
      exact absurd (mem_numbers_of_mem_tables hn) (hdisjoint _ ((number_mem_numbers cases).2 c))
    · exact ih hrest hr hn

theorem reads_record {s : Schema} (h : s.WellNumbered) {v : s.Value} {r : Record}
    (hr : r ∈ s.records v) (hfits : r.Fits) (limit : Nat) :
    Reads s.tables limit r.write [r.field] := by
  obtain ⟨hpos, hle⟩ := h.bounds ((number_mem_numbers s).1 v r hr)
  exact Record.reads hpos hle hfits (isDelimited_of_mem_tables h hr) limit

/-- All parts of a message that is not too large fit. -/
theorem fits_of_length {s : Schema} {v : s.Value} (h : (s.encode v).length < UInt64.size) :
    ∀ r ∈ s.records v, r.Fits := by
  intro r hr
  have hwrite : r.write.length ≤ (s.encode v).length := by
    rw [← (flatMap_records s).1]
    exact (List.sublist_flatten_of_mem (List.mem_map_of_mem hr)).length_le
  cases r with
  | varint n x => trivial
  | octets n b =>
    have hb : b.length ≤ (Record.octets n b).write.length := by
      simp only [Record.write, writeDelimited, List.length_append]
      omega
    exact Nat.lt_of_le_of_lt (Nat.le_trans hb hwrite) h

/-- The encoding of a message is read as the fields of its records. -/
theorem reads_encode {s : Schema} (h : s.WellNumbered) {v : s.Value}
    (hfits : ∀ r ∈ s.records v, r.Fits) (limit : Nat) :
    Reads s.tables limit (s.encode v) ((s.records v).map Record.field) := by
  rw [← (flatMap_records s).1]
  exact Record.reads_flatMap fun r hr => reads_record h hr (hfits r hr) limit

end Schema
end TaskGrid.Wire
