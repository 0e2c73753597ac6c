import Mathlib.Data.List.Basic
import TaskGrid.Proofs.Payload.RoundTrip

/-! The grammar of written payloads: what can be read is what the grammar describes, and it is described in one
way only. -/
namespace TaskGrid.Payload

/-- The fields that a payload takes on the wire: two, and one for each dependency. -/
structure Layout where
  method : Frame
  arguments : Frame
  dependencies : List Frame
  deriving DecidableEq, Repr

namespace Layout

def frames (l : Layout) : List Frame := l.method :: l.arguments :: l.dependencies

def bytes (l : Layout) : Octets := l.frames.flatMap Frame.bytes

def canonical (l : Layout) : Octets := l.frames.flatMap Frame.canonical

/-- All fields but the arguments are texts. -/
structure Valid (l : Layout) : Prop where
  frames : ∀ f ∈ l.frames, f.Valid
  method : l.method.data.toByteArray.IsValidUTF8
  dependencies : ∀ f ∈ l.dependencies, f.data.toByteArray.IsValidUTF8

structure Carries (l : Layout) (p : Payload) : Prop where
  method : p.method.toByteArray = l.method.data.toByteArray
  arguments : p.arguments = l.arguments.data
  dependencies : p.dependencies.map String.toByteArray = l.dependencies.map (·.data.toByteArray)

variable {l : Layout} {p : Payload}

theorem carries_iff : l.Carries p ↔ l.frames.map Frame.data = p.fields := by
  have htext (t : String) (data : Octets) : t.toByteArray = data.toByteArray ↔ data = Utf8.encode t := by
    rw [← Utf8.toByteArray_encode, List.toByteArray_inj, eq_comm]
  have htexts (ts : List String) (fs : List Frame) :
      ts.map String.toByteArray = fs.map (·.data.toByteArray) ↔
        fs.map Frame.data = ts.map Utf8.encode := by
    induction ts generalizing fs with
    | nil => simp
    | cons t ts ih => cases fs <;> simp [htext, ih]
  simp only [frames, fields, List.map_cons, List.cons.injEq, ← htext, ← htexts]
  constructor
  · intro h
    exact ⟨h.method, h.arguments.symm, h.dependencies⟩
  · rintro ⟨hmethod, harguments, hdependencies⟩
    exact ⟨hmethod, harguments.symm, hdependencies⟩

theorem Valid.exists_carried (h : l.Valid) : ∃ p, l.Carries p := by
  refine ⟨⟨.ofByteArray _ h.method, l.arguments.data,
    l.dependencies.attach.map fun f => .ofByteArray _ (h.dependencies f.val f.property)⟩, rfl, rfl, ?_⟩
  rw [List.map_map]
  exact List.attach_map_val (f := fun f : Frame => f.data.toByteArray)

theorem Carries.valid (h : l.Carries p) (hf : ∀ f ∈ l.frames, f.Valid) : l.Valid := by
  refine ⟨hf, ?_, fun f hf => ?_⟩
  · rw [← h.method]
    exact p.method.isValidUTF8
  · have hmem : f.data.toByteArray ∈ p.dependencies.map String.toByteArray := by
      rw [h.dependencies]
      exact List.mem_map_of_mem hf
    obtain ⟨t, -, ht⟩ := List.mem_map.mp hmem
    rw [← ht]
    exact t.isValidUTF8

/-- A payload is read from the layouts of it. -/
theorem decode_eq_ok_iff {bytes : Octets} :
    decode bytes = .ok p ↔ ∃ l : Layout, l.Valid ∧ l.bytes = bytes ∧ l.Carries p := by
  rw [Payload.decode_eq_ok_iff]
  constructor
  · rintro ⟨fs, hfs, hbytes, hdata⟩
    obtain ⟨f, rest, rfl, -, hrest⟩ := List.map_eq_cons_iff.mp hdata
    obtain ⟨g, rest, rfl, -, -⟩ := List.map_eq_cons_iff.mp hrest
    have hframes : Layout.Carries ⟨f, g, rest⟩ p := carries_iff.mpr hdata
    exact ⟨⟨f, g, rest⟩, hframes.valid hfs, hbytes, hframes⟩
  · rintro ⟨l, hl, hbytes, hframes⟩
    exact ⟨l.frames, hl.frames, hbytes, carries_iff.mp hframes⟩

/-- Writing a payload that was read gives the canonical form of its layout. -/
theorem Carries.encode (h : l.Carries p) (hl : l.Valid) : p.encode = .ok l.canonical := by
  refine encode_eq_ok_iff.mpr ⟨?_, ?_⟩
  · rw [← map_length_fields, ← carries_iff.mp h, List.map_map]
    intro n hn
    obtain ⟨f, hf, rfl⟩ := List.mem_map.mp hn
    exact (hl.frames f hf).length_data_lt
  · rw [← carries_iff.mp h, List.flatMap_map, canonical]
    apply List.flatMap_congr
    intro f hf
    exact (hl.frames f hf).canonical_eq.symm

end Layout

/-- An input is read exactly if it is the bytes of a layout. The layout is then the only way to take the input
apart into fields, the payload is the one it frames, and to write the payload puts every length in lower case.
All other inputs are malformed. -/
theorem decode_accepts_layouts (bytes : Octets) :
    ((∃ p, decode bytes = .ok p) ↔ ∃ l : Layout, l.Valid ∧ l.bytes = bytes) ∧
    (∀ l : Layout, l.Valid → l.bytes = bytes →
      (∀ fs : List Frame, (∀ f ∈ fs, f.Valid) → fs.flatMap Frame.bytes = bytes → fs = l.frames) ∧
      ∃ p, decode bytes = .ok p ∧ l.Carries p ∧ p.encode = .ok l.canonical ∧
        ((∀ f ∈ l.frames, f.digits.map Hex.lower = f.digits) → p.encode = .ok bytes)) ∧
    ((¬ ∃ l : Layout, l.Valid ∧ l.bytes = bytes) →
      ∃ flaw, decode bytes = .error flaw ∧ flaw.toGrid = .payloadFormat flaw.message) := by
  have haccepts : (∃ p, decode bytes = .ok p) ↔ ∃ l : Layout, l.Valid ∧ l.bytes = bytes := by
    constructor
    · rintro ⟨p, hp⟩
      obtain ⟨l, hl, hbytes, -⟩ := Layout.decode_eq_ok_iff.mp hp
      exact ⟨l, hl, hbytes⟩
    · rintro ⟨l, hl, hbytes⟩
      obtain ⟨p, hp⟩ := hl.exists_carried
      exact ⟨p, Layout.decode_eq_ok_iff.mpr ⟨l, hl, hbytes, hp⟩⟩
  refine ⟨haccepts, fun l hl hbytes => ⟨fun fs hfs hb => ?_, ?_⟩, fun hnone => ?_⟩
  · exact eq_of_flatMap_bytes hfs hl.frames (hb.trans hbytes.symm)
  · obtain ⟨p, hp⟩ := hl.exists_carried
    have hencode := hp.encode hl
    refine ⟨p, Layout.decode_eq_ok_iff.mpr ⟨l, hl, hbytes, hp⟩, hp, hencode, fun hlower => ?_⟩
    have hcanonical : l.canonical = l.bytes := List.flatMap_congr fun f hf => by
      rw [Frame.canonical, hlower f hf, Frame.bytes]
    rw [hencode, hcanonical, hbytes]
  · cases hd : decode bytes with
    | error flaw => exact ⟨flaw, rfl, rfl⟩
    | ok p => exact absurd (haccepts.mp ⟨p, hd⟩) hnone

/-- The layout of a call to `abcdefghij` with two bytes that are no text, its first length with a capital. -/
def capitalLayout : Layout where
  method := ⟨Utf8.encode "0000000A", Utf8.encode "abcdefghij"⟩
  arguments := ⟨Utf8.encode "00000002", [0xC3, 0x28]⟩
  dependencies := [⟨Utf8.encode "00000000", []⟩]

/-- A capital digit is read and written as a small one; a sign is no digit. -/
theorem decode_accepts_layouts_of_capitals :
    let l := capitalLayout
    let signed := Utf8.encode "+0000001a00000000"
    (l.Valid ∧ (∀ fs : List Frame, (∀ f ∈ fs, f.Valid) → fs.flatMap Frame.bytes = l.bytes → fs = l.frames) ∧
      ∃ p, decode l.bytes = .ok p ∧ l.Carries p ∧ p.encode = .ok l.canonical ∧
        ((∀ f ∈ l.frames, f.digits.map Hex.lower = f.digits) → p.encode = .ok l.bytes)) ∧
    ((¬ ∃ l : Layout, l.Valid ∧ l.bytes = signed) ∧
      ∃ flaw, decode signed = .error flaw ∧ flaw.toGrid = .payloadFormat flaw.message) := by
  intro l signed
  have hl : l.Valid := by
    refine ⟨?_, Utf8.isValidUTF8_iff.mpr ⟨_, rfl⟩, ?_⟩
    · intro f hf
      have hframes : ∀ f ∈ l.frames, f.digits.length = lengthWidth ∧ (∀ b ∈ f.digits, Hex.IsDigit b) ∧
          Hex.number f.digits = f.data.length := by decide +kernel
      obtain ⟨hw, hd, hn⟩ := hframes f hf
      exact ⟨hw, hd, hn⟩
    · intro f hf
      cases List.mem_singleton.mp hf
      exact Utf8.isValidUTF8_iff.mpr ⟨"", rfl⟩
  have hrefused : decode signed = .error (.badLength (signed.take lengthWidth)) := by decide +kernel
  have hnone : ¬ ∃ l : Layout, l.Valid ∧ l.bytes = signed := by
    rw [← (decode_accepts_layouts signed).1, hrefused]
    rintro ⟨p, hp⟩
    cases hp
  exact ⟨⟨hl, (decode_accepts_layouts l.bytes).2.1 l hl rfl⟩, hnone, (decode_accepts_layouts signed).2.2 hnone⟩

end TaskGrid.Payload
