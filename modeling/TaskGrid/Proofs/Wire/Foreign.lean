import TaskGrid.Proofs.Wire.RoundTrip

/-! Messages of a larger schema. Fields that a schema does not have may stand before, between and behind those
that it has: they are skipped, and the message is the one that it would be without them. -/
namespace TaskGrid.Wire
namespace Schema

/-- Well-formed fields, none of which a message has. -/
def Foreign (s : Schema) (bytes : Octets) : Prop :=
  ∃ fs, Fields maxGroups bytes fs ∧ ∀ f ∈ fs, f.number ∉ s.numbers

/-- Parts with something in front of each and something behind the last. -/
def weave (gap : Nat → Octets) : List Octets → Octets
  | [] => gap 0
  | part :: r => gap 0 ++ (part ++ weave (fun i => gap (i + 1)) r)

variable {s : Schema}

theorem foldlM_merge_of_not_mem {fs : List Field} (h : ∀ f ∈ fs, f.number ∉ s.numbers) (limit : Nat)
    (v : s.Value) : fs.foldlM (fun x f => s.merge limit f x) v = some v := by
  induction fs with
  | nil => rfl
  | cons f fs ih =>
    obtain ⟨hf, hfs⟩ := List.forall_mem_cons.mp h
    rw [List.foldlM_cons, merge_of_not_mem hf]
    exact ih hfs

/-- Foreign fields are read as fields that change nothing. -/
theorem Foreign.reads {bytes : Octets} (h : s.Foreign bytes) :
    ∃ fs, Reads s.tables maxGroups bytes fs ∧
      ∀ v, fs.foldlM (fun x f => s.merge maxGroups f x) v = some v := by
  obtain ⟨fs, hfs, hnot⟩ := h
  have htables : ∀ f ∈ fs, f.number ∉ s.tables := fun f hf =>
    mt mem_numbers_of_mem_tables (hnot f hf)
  exact ⟨fs, hfs.reads htables, foldlM_merge_of_not_mem hnot maxGroups⟩

/-- Merging what is read from woven records is merging the records. -/
theorem reads_weave {gap : Nat → Octets} (hgap : ∀ i, s.Foreign (gap i)) {rs : List Record}
    (hrs : ∀ r ∈ rs, Reads s.tables maxGroups r.write [r.field]) :
    ∃ fs, Reads s.tables maxGroups (weave gap (rs.map Record.write)) fs ∧
      ∀ v, fs.foldlM (fun x f => s.merge maxGroups f x) v =
        (rs.map Record.field).foldlM (fun x f => s.merge maxGroups f x) v := by
  induction rs generalizing gap with
  | nil => exact (hgap 0).reads
  | cons r rs ih =>
    obtain ⟨hr, hrs⟩ := List.forall_mem_cons.mp hrs
    obtain ⟨gs, hgs, hskip⟩ := (hgap 0).reads
    obtain ⟨fs, hfs, hmerge⟩ := ih (fun i => hgap (i + 1)) hrs
    refine ⟨gs ++ r.field :: fs, hgs.append (hr.cons hfs), fun v => ?_⟩
    simp only [List.foldlM_append, hskip, List.map_cons, List.foldlM_cons, hmerge,
      Option.bind_eq_bind, Option.bind_some]

end Schema

namespace Message

/-- Wherever fields that a message does not have are put between those that it has, it is read as if they were
not there: fields of all framings, up to the greatest number, and groups in groups as deep as readers go. -/
theorem foreign_fields_skipped {name : String} {s : Schema} (hs : (name, s) ∈ catalogue) (v : s.Value)
    (hfits : ∀ r ∈ s.records v, r.Fits) (gap : Nat → Octets) (hgap : ∀ i, s.Foreign (gap i)) :
    let parts := (s.records v).map Record.write
    parts.flatten = s.encode v ∧ s.decode? (Schema.weave gap parts) = some v := by
  intro parts
  have h := wellNumbered_of_mem hs
  obtain ⟨fs, hfs, hmerge⟩ := Schema.reads_weave hgap fun r hr =>
    Schema.reads_record h hr (hfits r hr) Schema.maxGroups
  refine ⟨(Schema.flatMap_records s).1 v, ?_⟩
  calc s.decode? (Schema.weave gap parts)
    _ = fs.foldlM (fun x f => s.merge Schema.maxGroups f x) s.empty := Schema.mergeFields_of_reads hfs _ _
    _ = ((s.records v).map Record.field).foldlM (fun x f => s.merge Schema.maxGroups f x) s.empty :=
      hmerge s.empty
    _ = some v := (h.restores Schema.maxGroups).1 v hfits

/-- A padded number in front, and behind it the greatest number and a group in a group. -/
def sampleGap : Nat → Octets
  | 0 => [0x88, 0x00, 0x85, 0x80, 0x00]
  | _ => [0xF9, 0xFF, 0xFF, 0xFF, 0x0F] ++ ([1, 2, 3, 4, 5, 6, 7, 8] ++
    [0x23, 0x2A, 0x02, 0x10, 0x00, 0x2B, 0x2C, 0x24, 0x2D, 0, 0, 0, 0])

theorem foreign_sampleGap (i : Nat) : output.Foreign (sampleGap i) := by
  have byte (b : UInt8) (h : b.toNat < 128) : Varint.Spells [b] b.toNat :=
    ⟨.last h, by simp, by rw [UInt64.size]; omega⟩
  have key (b : UInt8) (k : Key) (h : b.toNat < 128) (hk : b.toNat = 8 * k.number + k.framing.toNat)
      (hpos : 0 < k.number) : Key.Spells [b] k :=
    ⟨hk ▸ byte b h, hpos, by rw [maxNumber]; omega⟩
  cases i with
  | zero =>
    have hkey : Key.Spells [0x88, 0x00] ⟨1, .varint⟩ :=
      ⟨⟨.more (by decide) (.last (by decide)), by decide, by decide⟩, by decide, by decide⟩
    have hnumber : Varint.Spells [0x85, 0x80, 0x00] 5 :=
      ⟨.more (by decide) (.more (by decide) (.last (by decide))), by decide, by decide⟩
    exact ⟨[⟨1, .varint 5⟩], .plain hkey (.varint hnumber) .nil, by decide⟩
  | succ i =>
    have hlast : Key.Spells [0xF9, 0xFF, 0xFF, 0xFF, 0x0F] ⟨maxNumber, .fixed64⟩ :=
      ⟨⟨.more (by decide) (.more (by decide) (.more (by decide) (.more (by decide) (.last (by decide))))),
        by decide, by decide⟩, by decide, by decide⟩
    have height : Content.Spells .fixed64 [1, 2, 3, 4, 5, 6, 7, 8] .fixed64 := .fixed64 rfl
    have hfour : Content.Spells .fixed32 [0, 0, 0, 0] .fixed32 := .fixed32 rfl
    have hoctets : Content.Spells .delimited ([0x02] ++ [0x10, 0x00]) (.octets [0x10, 0x00]) :=
      .delimited (byte 2 (by decide))
    have hinside : Fields (98 + 1) [0x2A, 0x02, 0x10, 0x00, 0x2B, 0x2C]
        [⟨5, .octets [0x10, 0x00]⟩, ⟨5, .group⟩] :=
      .plain (key 0x2A ⟨5, .delimited⟩ (by decide) rfl (by decide)) hoctets
        (.group (key 0x2B ⟨5, .groupStart⟩ (by decide) rfl (by decide)) .nil
          (key 0x2C ⟨5, .groupEnd⟩ (by decide) rfl (by decide)) .nil)
    have hgroup : Fields (98 + 1 + 1) [0x23, 0x2A, 0x02, 0x10, 0x00, 0x2B, 0x2C, 0x24, 0x2D, 0, 0, 0, 0]
        [⟨4, .group⟩, ⟨5, .fixed32⟩] :=
      .group (key 0x23 ⟨4, .groupStart⟩ (by decide) rfl (by decide)) hinside
        (key 0x24 ⟨4, .groupEnd⟩ (by decide) rfl (by decide))
        (.plain (key 0x2D ⟨5, .fixed32⟩ (by decide) rfl (by decide)) hfour .nil)
    have hall : Fields Schema.maxGroups (sampleGap 1)
        [⟨maxNumber, .fixed64⟩, ⟨4, .group⟩, ⟨5, .fixed32⟩] := .plain hlast height hgroup
    exact ⟨_, hall, by decide⟩

theorem foreign_fields_skipped_output :
    let v : output.Value := (some (.inr (.inl ("gone", ()))), ())
    let parts := (output.records v).map Record.write
    (∀ i, output.Foreign (sampleGap i)) ∧ parts.flatten = output.encode v ∧
      output.decode? (Schema.weave sampleGap parts) = some v := by
  intro v
  have hmem : ("Output", output) ∈ catalogue := by simp [catalogue]
  have hfits : ∀ r ∈ output.records v, r.Fits := by decide +kernel
  exact ⟨foreign_sampleGap, foreign_fields_skipped hmem v hfits sampleGap foreign_sampleGap⟩

end Message
end TaskGrid.Wire
