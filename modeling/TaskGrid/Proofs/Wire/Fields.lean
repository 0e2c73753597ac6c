import TaskGrid.Proofs.Wire.Varint
import TaskGrid.Wire.Field

/-! Well-formed fields, whatever they mean: each is read as itself, and a group is skipped up to its own end. -/
namespace TaskGrid.Wire

def maxNumber : Nat := 536870911

/-- A key, its number padded or not. -/
structure Key.Spells (bytes : Octets) (k : Key) : Prop where
  digits : Varint.Spells bytes (8 * k.number + k.framing.toNat)
  positive : 0 < k.number
  fits : k.number ≤ maxNumber

/-- A content that is no group, behind a key of its framing. -/
inductive Content.Spells : Framing → Octets → Content → Prop
  | varint {bytes : Octets} {n : Nat} (h : Varint.Spells bytes n) : Spells .varint bytes (.varint n)
  | fixed64 {bytes : Octets} (h : bytes.length = 8) : Spells .fixed64 bytes .fixed64
  | delimited {size bytes : Octets} (h : Varint.Spells size bytes.length) :
      Spells .delimited (size ++ bytes) (.octets bytes)
  | fixed32 {bytes : Octets} (h : bytes.length = 4) : Spells .fixed32 bytes .fixed32

/-- Well-formed fields one after the other. A group ends with its own number, and no field stands in `room`
groups or more. -/
inductive Fields : (room : Nat) → Octets → List Field → Prop
  | nil {room : Nat} : Fields room [] []
  | plain {room number : Nat} {framing : Framing} {key content rest : Octets} {c : Content}
      {fs : List Field} (hkey : Key.Spells key ⟨number, framing⟩)
      (hcontent : Content.Spells framing content c) (hrest : Fields (room + 1) rest fs) :
      Fields (room + 1) (key ++ (content ++ rest)) (⟨number, c⟩ :: fs)
  | group {room number : Nat} {start inside stop rest : Octets} {gs fs : List Field}
      (hstart : Key.Spells start ⟨number, .groupStart⟩) (hinside : Fields room inside gs)
      (hstop : Key.Spells stop ⟨number, .groupEnd⟩) (hrest : Fields (room + 1) rest fs) :
      Fields (room + 1) (start ++ (inside ++ (stop ++ rest))) (⟨number, .group⟩ :: fs)

theorem Framing.toNat_lt (f : Framing) : f.toNat < 8 := by cases f <;> decide

theorem Framing.ofNat?_toNat (f : Framing) : ofNat? f.toNat = some f := by cases f <;> rfl

theorem Key.Spells.read {bytes : Octets} {k : Key} (h : Spells bytes k) (rest : Octets) :
    Key.read (bytes ++ rest) = some (k, rest) := by
  have hlt := k.framing.toNat_lt
  have hfits := h.fits
  have hpos := h.positive
  rw [maxNumber] at hfits
  have hsound : ¬ (maxKey < 8 * k.number + k.framing.toNat ∨ k.number = 0) := by
    rw [maxKey, UInt32.size]
    omega
  have hmod : (8 * k.number + k.framing.toNat) % 8 = k.framing.toNat := by omega
  have hdiv : (8 * k.number + k.framing.toNat) / 8 = k.number := by omega
  rw [Key.read, h.digits.read]
  simp only [Option.bind_some, hdiv, if_neg hsound, hmod, Framing.ofNat?_toNat, Option.map_some]

theorem take?_append {n : Nat} {bytes : Octets} (h : bytes.length = n) (rest : Octets) :
    take? n (bytes ++ rest) = some (bytes, rest) := by
  subst h
  rw [take?, if_neg (by simp), List.take_left, List.drop_left]

theorem readDelimited_append {size bytes : Octets} (h : Varint.Spells size bytes.length)
    (rest : Octets) : readDelimited (size ++ (bytes ++ rest)) = some (bytes, rest) := by
  rw [readDelimited, h.read, Option.bind_some]
  exact take?_append rfl rest

theorem Content.Spells.readPlain {framing : Framing} {bytes : Octets} {c : Content}
    (h : Spells framing bytes c) (rest : Octets) :
    readPlain framing (bytes ++ rest) = some (c, rest) := by
  cases h with
  | varint h => rw [Wire.readPlain, h.read, Option.map_some]
  | fixed64 h => rw [Wire.readPlain, take?_append h, Option.map_some]
  | delimited h => rw [Wire.readPlain, List.append_assoc, readDelimited_append h, Option.map_some]
  | fixed32 h => rw [Wire.readPlain, take?_append h, Option.map_some]

section Groups
variable {limit number group : Nat} {outer : List Nat} {bytes rest : Octets}

theorem skipGroups_end (h : Key.read bytes = some (⟨group, .groupEnd⟩, rest)) :
    skipGroups limit (group :: outer) bytes = skipGroups limit outer rest := by
  rw [skipGroups]
  split <;> simp_all

theorem skipGroups_start (h : Key.read bytes = some (⟨number, .groupStart⟩, rest))
    (hroom : (group :: outer).length < limit) :
    skipGroups limit (group :: outer) bytes = skipGroups limit (number :: group :: outer) rest := by
  rw [skipGroups]
  split <;> simp_all

theorem skipGroups_plain {framing : Framing} {after : Octets} {c : Content}
    (h : Key.read bytes = some (⟨number, framing⟩, rest)) (hread : readPlain framing rest = some (c, after))
    (hroom : (group :: outer).length < limit) :
    skipGroups limit (group :: outer) bytes = skipGroups limit (group :: outer) after := by
  rw [skipGroups]
  split
  · simp_all
  · next hkey =>
    cases h.symm.trans hkey
    cases hread
  · next hkey =>
    cases h.symm.trans hkey
    cases hread
  · next hkey =>
    cases h.symm.trans hkey
    rw [if_pos hroom]
    split
    · simp_all
    · next hplain =>
      cases hread.symm.trans hplain
      rfl

end Groups

theorem Fields.skip {room : Nat} {bytes : Octets} {fs : List Field} (h : Fields room bytes fs)
    {limit group : Nat} {outer : List Nat} (hlimit : room + (group :: outer).length = limit)
    (rest : Octets) :
    skipGroups limit (group :: outer) (bytes ++ rest) = skipGroups limit (group :: outer) rest := by
  induction h generalizing group outer rest with
  | nil => rfl
  | @plain room number framing key content after c fs hkey hcontent _ ih =>
    rw [List.append_assoc, List.append_assoc]
    rw [skipGroups_plain (hkey.read _) (hcontent.readPlain _) (by omega), ih hlimit]
  | @group room number start inside stop after gs fs hstart _ hstop _ ihinside ih =>
    have hinner : room + (number :: group :: outer).length = limit := by
      rw [List.length_cons]
      omega
    rw [List.append_assoc, List.append_assoc, List.append_assoc]
    rw [skipGroups_start (hstart.read _) (by omega), ihinside hinner]
    rw [skipGroups_end (hstop.read _), ih hlimit]

/-- Whatever follows, fields are read off the front of an input. -/
def Reads (tables : List Nat) (limit : Nat) (bytes : Octets) (fs : List Field) : Prop :=
  ∀ rest, Field.readAll tables limit (bytes ++ rest) =
    (Field.readAll tables limit rest).map (fs ++ ·)

section Reads
variable {tables : List Nat} {limit : Nat} {a b : Octets} {fs gs : List Field}

theorem Reads.nil : Reads tables limit [] [] := by
  intro rest
  simp

theorem Reads.append (ha : Reads tables limit a fs) (hb : Reads tables limit b gs) :
    Reads tables limit (a ++ b) (fs ++ gs) := by
  intro rest
  rw [List.append_assoc, ha, hb, Option.map_map]
  simp only [Function.comp_def, List.append_assoc]

theorem Reads.cons {f : Field} (ha : Reads tables limit a [f]) (hb : Reads tables limit b gs) :
    Reads tables limit (a ++ b) (f :: gs) := ha.append hb

theorem Reads.field {f : Field}
    (h : ∀ rest, Field.read tables limit (a ++ rest) = some (f, rest)) :
    Reads tables limit a [f] := by
  intro rest
  have hne : a ++ rest ≠ [] := by
    intro hnil
    have hread := h rest
    rw [hnil] at hread
    cases hread
  rw [Field.readAll, if_neg hne]
  split
  · next hnone => cases (h rest).symm.trans hnone
  · next hsome =>
    cases (h rest).symm.trans hsome
    rfl

theorem Reads.readAll (h : Reads tables limit a fs) : Field.readAll tables limit a = some fs := by
  have hend := h []
  rw [List.append_nil, Field.readAll.eq_def tables limit [], if_pos rfl] at hend
  rw [hend, Option.map_some, List.append_nil]

end Reads

/-- Fields that no table has are read as what they spell. -/
theorem Fields.reads {limit : Nat} {bytes : Octets} {fs : List Field} (h : Fields limit bytes fs)
    {tables : List Nat} (htables : ∀ f ∈ fs, f.number ∉ tables) : Reads tables limit bytes fs := by
  induction h with
  | nil => exact .nil
  | @plain room number framing key content rest c fs hkey hcontent _ ih =>
    obtain ⟨hnumber, hrest⟩ := List.forall_mem_cons.mp htables
    have hstart : framing ≠ .groupStart := by
      rintro rfl
      cases hcontent
    rw [← List.append_assoc]
    refine .cons (.field fun after => ?_) (ih hrest)
    rw [List.append_assoc, Field.read, hkey.read]
    simp only [Option.bind_some, if_neg hnumber, if_neg hstart, hcontent.readPlain, Option.map_some]
  | @group room number start inside stop rest gs fs hstart hinside hstop _ _ ih =>
    obtain ⟨hnumber, hrest⟩ := List.forall_mem_cons.mp htables
    have hskip := hinside.skip (show room + [number].length = room + 1 from rfl)
    rw [← List.append_assoc, ← List.append_assoc, List.append_assoc start]
    refine .cons (.field fun after => ?_) (ih hrest)
    rw [List.append_assoc, List.append_assoc, Field.read, hstart.read]
    simp only [Option.bind_some, if_neg hnumber, if_true]
    rw [hskip, skipGroups_end (hstop.read _), skipGroups, Option.map_some]

end TaskGrid.Wire
