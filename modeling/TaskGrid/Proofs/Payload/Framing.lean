import TaskGrid.Payload
import TaskGrid.Proofs.Text.Hex
import TaskGrid.Proofs.Text.Utf8

/-! The fields that an input is made of: they can be told apart in one way only, and reading an input finds them.
Main statements: `decode_eq_ok_iff`, `eq_of_flatMap_bytes`. -/
namespace TaskGrid.Payload

/-- A field on the wire: the digits of its length, and its bytes. -/
@[ext]
structure Frame where
  digits : Octets
  data : Octets
  deriving DecidableEq, Repr

namespace Frame

def bytes (f : Frame) : Octets := f.digits ++ f.data

def canonical (f : Frame) : Octets := f.digits.map Hex.lower ++ f.data

/-- Eight hexadecimal digits, of either case, give the length of the data. -/
structure Valid (f : Frame) : Prop where
  width : f.digits.length = lengthWidth
  hexadecimal : ∀ b ∈ f.digits, Hex.IsDigit b
  number : Hex.number f.digits = f.data.length

variable {f g : Frame}

theorem Valid.length_bytes (h : f.Valid) : f.bytes.length = lengthWidth + f.data.length := by
  rw [bytes, List.length_append, h.width]

theorem Valid.length_data_lt (h : f.Valid) : f.data.length < UInt32.size := by
  have hlt := Hex.number_lt h.hexadecimal
  rwa [h.width, h.number] at hlt

theorem Valid.canonical_eq (h : f.Valid) :
    f.canonical = Hex.write lengthWidth f.data.length ++ f.data := by
  rw [canonical, Hex.map_lower h.hexadecimal, h.width, h.number]

/-- Of two inputs that begin with a field, one is the other if only their bytes agree. -/
theorem Valid.append_inj (hf : f.Valid) (hg : g.Valid) {r s : Octets}
    (h : f.bytes ++ r = g.bytes ++ s) : f = g ∧ r = s := by
  rw [bytes, bytes, List.append_assoc, List.append_assoc] at h
  obtain ⟨hdigits, hrest⟩ := List.append_inj h (hf.width.trans hg.width.symm)
  have hlength : f.data.length = g.data.length := by rw [← hf.number, ← hg.number, hdigits]
  obtain ⟨hdata, hrest⟩ := List.append_inj hrest hlength
  exact ⟨Frame.ext hdigits hdata, hrest⟩

theorem Valid.bytes_append_ne_nil (h : f.Valid) (rest : Octets) : f.bytes ++ rest ≠ [] := by
  intro hnil
  have hlength := congrArg List.length hnil
  rw [List.length_append, h.length_bytes, List.length_nil, lengthWidth] at hlength
  omega

theorem Valid.readField (h : f.Valid) (rest : Octets) :
    ∃ hr, readField (f.bytes ++ rest) = .ok (f.data, ⟨rest, hr⟩) := by
  have hlen : (f.bytes ++ rest).length = lengthWidth + f.data.length + rest.length := by
    rw [List.length_append, h.length_bytes]
  have htake : (f.bytes ++ rest).take lengthWidth = f.digits := by
    rw [bytes, List.append_assoc, List.take_left' h.width]
  have hdrop : (f.bytes ++ rest).drop lengthWidth = f.data ++ rest := by
    rw [bytes, List.append_assoc, List.drop_left' h.width]
  have hread : Hex.read? f.digits = some f.data.length :=
    Hex.read?_eq_some_iff.mpr ⟨h.hexadecimal, h.number⟩
  have hw : 0 < lengthWidth := by decide
  refine ⟨by omega, ?_⟩
  unfold Payload.readField
  rw [dif_neg (by omega)]
  simp only [htake, hdrop, hread]
  rw [if_neg (by simp)]
  simp

end Frame

theorem exists_frame {bytes data : Octets} {rest : { r : Octets // r.length < bytes.length }}
    (h : readField bytes = .ok (data, rest)) :
    ∃ f : Frame, f.Valid ∧ f.bytes ++ rest.val = bytes ∧ f.data = data := by
  unfold readField at h
  split at h
  · cases h
  · next hlen =>
    simp only at h
    split at h
    · cases h
    · next size hsize =>
      split at h
      · cases h
      · next hfit =>
        cases h
        obtain ⟨hdigits, hnumber⟩ := Hex.read?_eq_some_iff.mp hsize
        refine ⟨⟨bytes.take lengthWidth, (bytes.drop lengthWidth).take size⟩, ⟨?_, hdigits, ?_⟩, ?_, rfl⟩
        · exact List.length_take_of_le (Nat.le_of_not_lt hlen)
        · rw [hnumber, List.length_take_of_le (Nat.le_of_not_lt hfit)]
        · rw [Frame.bytes, List.append_assoc, List.take_append_drop, List.take_append_drop]

theorem readDependencies_of_frames {fs : List Frame} (h : ∀ f ∈ fs, f.Valid) {texts : List String}
    (ht : fs.map Frame.data = texts.map Utf8.encode) :
    readDependencies (fs.flatMap Frame.bytes) = .ok texts := by
  induction fs generalizing texts with
  | nil =>
    cases texts with
    | nil =>
      rw [readDependencies]
      rfl
    | cons t r => cases ht
  | cons f r ih =>
    cases texts with
    | nil => cases ht
    | cons t texts =>
      obtain ⟨hf, hr⟩ := List.forall_mem_cons.mp h
      obtain ⟨htext, htexts⟩ := List.cons.inj ht
      obtain ⟨_, hread⟩ := hf.readField (r.flatMap Frame.bytes)
      rw [List.flatMap_cons, readDependencies, if_neg (hf.bytes_append_ne_nil _)]
      simp only [hread, htext, Utf8.decode_encode, ih hr htexts, Except.map]

theorem exists_frames_of_readDependencies {bytes : Octets} {texts : List String}
    (h : readDependencies bytes = .ok texts) :
    ∃ fs : List Frame, (∀ f ∈ fs, f.Valid) ∧ fs.flatMap Frame.bytes = bytes ∧
      fs.map Frame.data = texts.map Utf8.encode := by
  fun_induction readDependencies bytes generalizing texts with
  | case1 =>
    cases h
    exact ⟨[], by simp⟩
  | case2 => cases h
  | case3 => cases h
  | case4 bytes hne data rest hr hread t ht ih =>
    cases hrest : readDependencies rest with
    | error e =>
      rw [hrest] at h
      cases h
    | ok texts =>
      rw [hrest] at h
      cases h
      obtain ⟨f, hf, hb, hd⟩ := exists_frame hread
      obtain ⟨fs, hfs, hbs, hds⟩ := ih hrest
      refine ⟨f :: fs, List.forall_mem_cons.mpr ⟨hf, hfs⟩, ?_, ?_⟩
      · rw [List.flatMap_cons, hbs, hb]
      · rw [List.map_cons, List.map_cons, hd, hds, Utf8.decode_eq_ok_iff.mp ht]

theorem bind_eq_ok_iff {ε α β : Type} {x : Except ε α} {f : α → Except ε β} {b : β} :
    (x >>= f) = .ok b ↔ ∃ a, x = .ok a ∧ f a = .ok b := by
  cases x with
  | error e => simp [bind, Except.bind]
  | ok a => simp [bind, Except.bind]

theorem mapError_eq_ok_iff {ε ε' α : Type} {x : Except ε α} {f : ε → ε'} {a : α} :
    x.mapError f = .ok a ↔ x = .ok a := by
  cases x with
  | error e => simp [Except.mapError]
  | ok b => simp [Except.mapError]

theorem decode_eq_ok_iff_reads {bytes : Octets} {p : Payload} : decode bytes = .ok p ↔
    ∃ data rest rest', readField bytes = .ok (data, rest) ∧ Utf8.decode data = .ok p.method ∧
      readField rest.val = .ok (p.arguments, rest') ∧
      readDependencies rest'.val = .ok p.dependencies := by
  unfold decode
  constructor
  · intro h
    simp only [bind_eq_ok_iff, mapError_eq_ok_iff] at h
    obtain ⟨⟨data, rest⟩, h1, method, hm, ⟨arguments, rest'⟩, h2, dependencies, h3, h⟩ := h
    cases h
    exact ⟨data, rest, rest', h1, hm, h2, h3⟩
  · rintro ⟨data, rest, rest', h1, hm, h2, h3⟩
    simp only [bind_eq_ok_iff, mapError_eq_ok_iff]
    exact ⟨(data, rest), h1, _, hm, (_, rest'), h2, _, h3, rfl⟩

/-- A payload is read from the fields that it is made of, and from nothing else. -/
theorem decode_eq_ok_iff {bytes : Octets} {p : Payload} : decode bytes = .ok p ↔
    ∃ fs : List Frame, (∀ f ∈ fs, f.Valid) ∧ fs.flatMap Frame.bytes = bytes ∧
      fs.map Frame.data = p.fields := by
  rw [decode_eq_ok_iff_reads]
  constructor
  · rintro ⟨data, rest, rest', h1, hm, h2, h3⟩
    obtain ⟨f, hf, hfb, hfd⟩ := exists_frame h1
    obtain ⟨g, hg, hgb, hgd⟩ := exists_frame h2
    obtain ⟨fs, hfs, hfsb, hfsd⟩ := exists_frames_of_readDependencies h3
    refine ⟨f :: g :: fs, ?_, ?_, ?_⟩
    · exact List.forall_mem_cons.mpr ⟨hf, List.forall_mem_cons.mpr ⟨hg, hfs⟩⟩
    · rw [List.flatMap_cons, List.flatMap_cons, hfsb, hgb, hfb]
    · rw [List.map_cons, List.map_cons, hfd, hgd, hfsd, ← Utf8.decode_eq_ok_iff.mp hm, fields]
  · rintro ⟨fs, hfs, rfl, hd⟩
    obtain ⟨f, fs, rfl, hmethod, hd⟩ := List.map_eq_cons_iff.mp hd
    obtain ⟨g, fs, rfl, harguments, hdependencies⟩ := List.map_eq_cons_iff.mp hd
    obtain ⟨hf, hfs⟩ := List.forall_mem_cons.mp hfs
    obtain ⟨hg, hfs⟩ := List.forall_mem_cons.mp hfs
    rw [List.flatMap_cons, List.flatMap_cons]
    obtain ⟨hr, h1⟩ := hf.readField (g.bytes ++ fs.flatMap Frame.bytes)
    obtain ⟨hr', h2⟩ := hg.readField (fs.flatMap Frame.bytes)
    rw [harguments] at h2
    exact ⟨f.data, ⟨_, hr⟩, ⟨_, hr'⟩, h1, Utf8.decode_eq_ok_iff.mpr hmethod.symm, h2,
      readDependencies_of_frames hfs hdependencies⟩

/-- Fields are told apart in one way only. -/
theorem eq_of_flatMap_bytes {fs gs : List Frame} (hf : ∀ f ∈ fs, f.Valid) (hg : ∀ g ∈ gs, g.Valid)
    (h : fs.flatMap Frame.bytes = gs.flatMap Frame.bytes) : fs = gs := by
  induction fs generalizing gs with
  | nil =>
    cases gs with
    | nil => rfl
    | cons g gs =>
      exact absurd h.symm ((hg g List.mem_cons_self).bytes_append_ne_nil _)
  | cons f fs ih =>
    obtain ⟨hf, hfs⟩ := List.forall_mem_cons.mp hf
    cases gs with
    | nil => exact absurd h (hf.bytes_append_ne_nil _)
    | cons g gs =>
      obtain ⟨hg, hgs⟩ := List.forall_mem_cons.mp hg
      rw [List.flatMap_cons, List.flatMap_cons] at h
      obtain ⟨rfl, hrest⟩ := hf.append_inj hg h
      rw [ih hfs hgs hrest]

end TaskGrid.Payload
