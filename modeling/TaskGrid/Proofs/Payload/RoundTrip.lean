import TaskGrid.Proofs.Payload.Framing

/-! A payload that was written is read back, and every payload whose fields are not too long can be written. -/
namespace TaskGrid.Payload

def frame (field : Octets) : Octets := Hex.write lengthWidth field.length ++ field

def sizes (p : Payload) : List Nat :=
  p.method.utf8ByteSize :: p.arguments.length :: p.dependencies.map String.utf8ByteSize

theorem map_length_fields (p : Payload) : p.fields.map List.length = p.sizes := by
  simp [fields, sizes, Function.comp_def]

theorem encodeField_eq (field : Octets) : encodeField field =
    if UInt32.size ≤ field.length then .error (.fieldTooLong field.length) else .ok (frame field) := by
  have hsize : Nat.pow 16 lengthWidth = UInt32.size := rfl
  unfold encodeField
  rw [hsize]
  split
  · next h => rw [if_neg (Nat.not_le_of_lt h), frame]
  · next h => rw [if_pos (Nat.le_of_not_lt h)]

/-- The first field that is too long is the error. -/
theorem mapM_encodeField (fields : List Octets) : fields.mapM encodeField =
    match (fields.map List.length).find? fun n => UInt32.size ≤ n with
    | some size => .error (.fieldTooLong size)
    | none => .ok (fields.map frame) := by
  induction fields with
  | nil => rfl
  | cons f r ih =>
    rw [List.mapM_cons, encodeField_eq, ih, List.map_cons, List.find?_cons]
    by_cases h : UInt32.size ≤ f.length
    · simp only [h, if_true, decide_true]
      rfl
    · simp only [h, if_false, decide_false]
      cases (r.map List.length).find? fun n => UInt32.size ≤ n with
      | none => rfl
      | some size => rfl

theorem encode_eq (p : Payload) : p.encode =
    match p.sizes.find? fun n => UInt32.size ≤ n with
    | some size => .error (.fieldTooLong size)
    | none => .ok (p.fields.flatMap frame) := by
  rw [encode, mapM_encodeField, map_length_fields]
  split
  · rfl
  · rw [List.flatMap_def]
    rfl

theorem find?_sizes_eq_none_iff {p : Payload} :
    (p.sizes.find? fun n => UInt32.size ≤ n) = none ↔ ∀ n ∈ p.sizes, n < UInt32.size := by
  simp [List.find?_eq_none]

theorem encode_eq_ok_iff {p : Payload} {bytes : Octets} : p.encode = .ok bytes ↔
    (∀ n ∈ p.sizes, n < UInt32.size) ∧ p.fields.flatMap frame = bytes := by
  rw [encode_eq, ← find?_sizes_eq_none_iff]
  split
  · next h => simp [h]
  · next h => simp [h]

/-- A field that was written is one that can be read. -/
theorem valid_written {field : Octets} (h : field.length < UInt32.size) :
    Frame.Valid ⟨Hex.write lengthWidth field.length, field⟩ := by
  obtain ⟨hdigits, hnumber⟩ := Hex.read?_eq_some_iff.mp (Hex.read?_write lengthWidth field.length h)
  exact ⟨Hex.length_write _ _, hdigits, hnumber⟩

theorem decode_of_encode {p : Payload} {bytes : Octets} (h : p.encode = .ok bytes) :
    decode bytes = .ok p := by
  obtain ⟨hfits, rfl⟩ := encode_eq_ok_iff.mp h
  have hvalid : ∀ f ∈ p.fields.map fun d => (⟨Hex.write lengthWidth d.length, d⟩ : Frame), f.Valid := by
    intro f hf
    obtain ⟨d, hd, rfl⟩ := List.mem_map.mp hf
    apply valid_written
    apply hfits
    rw [← map_length_fields]
    exact List.mem_map_of_mem hd
  refine decode_eq_ok_iff.mpr ⟨_, hvalid, ?_, ?_⟩
  · rw [List.flatMap_map]
    rfl
  · rw [List.map_map]
    exact List.map_id _

theorem length_frame (field : Octets) : (frame field).length = lengthWidth + field.length := by
  rw [frame, List.length_append, Hex.length_write]

theorem length_flatMap_frame (fields : List Octets) : (fields.flatMap frame).length =
    lengthWidth * fields.length + (fields.map List.length).sum := by
  induction fields with
  | nil => rfl
  | cons f r ih =>
    rw [List.flatMap_cons, List.length_append, length_frame, ih, List.length_cons, List.map_cons,
      List.sum_cons, Nat.mul_succ]
    omega

/-- A payload can be written exactly if each of its fields has fewer than `UInt32.size` bytes, and it is read
back from eight digits for each field and the fields. Else the first field that is too long is the error. -/
theorem round_trip_at_limits (p : Payload) :
    ((∀ n ∈ p.sizes, n < UInt32.size) → ∃ bytes, p.encode = .ok bytes ∧
      bytes.length = 8 * (2 + p.dependencies.length) + p.sizes.sum ∧ decode bytes = .ok p) ∧
    ((¬ ∀ n ∈ p.sizes, n < UInt32.size) → ∃ size,
      (p.sizes.find? fun n => UInt32.size ≤ n) = some size ∧
      p.encode = .error (.fieldTooLong size) ∧ (Flaw.fieldTooLong size).toGrid =
        .payloadFormat s!"field of {size} bytes does not fit a 32-bit length prefix") := by
  constructor
  · intro hfits
    have hencode : p.encode = .ok (p.fields.flatMap frame) := encode_eq_ok_iff.mpr ⟨hfits, rfl⟩
    refine ⟨_, hencode, ?_, decode_of_encode hencode⟩
    have hcount : p.fields.length = 2 + p.dependencies.length := by
      simp only [fields, List.length_cons, List.length_map]
      omega
    rw [length_flatMap_frame, map_length_fields, hcount, lengthWidth]
  · intro hlong
    rw [← find?_sizes_eq_none_iff] at hlong
    obtain ⟨size, hsize⟩ := Option.ne_none_iff_exists'.mp hlong
    refine ⟨size, hsize, ?_, rfl⟩
    rw [encode_eq, hsize]

/-- Of an empty, a repeated and a binary field, and of one that is too long by a byte. -/
theorem round_trip_at_limits_extremes :
    let p : Payload := ⟨"", [0, 255, 128], ["r1", "", "r1"]⟩
    let q : Payload := ⟨"m", List.replicate UInt32.size 0, []⟩
    ((∀ n ∈ p.sizes, n < UInt32.size) ∧ ∃ bytes, p.encode = .ok bytes ∧
      bytes.length = 8 * (2 + p.dependencies.length) + p.sizes.sum ∧ decode bytes = .ok p) ∧
    ((¬ ∀ n ∈ q.sizes, n < UInt32.size) ∧ ∃ size,
      (q.sizes.find? fun n => UInt32.size ≤ n) = some size ∧
      q.encode = .error (.fieldTooLong size) ∧ (Flaw.fieldTooLong size).toGrid =
        .payloadFormat s!"field of {size} bytes does not fit a 32-bit length prefix") := by
  intro p q
  have hp : ∀ n ∈ p.sizes, n < UInt32.size := by decide +kernel
  have hq : ¬ ∀ n ∈ q.sizes, n < UInt32.size := by
    intro h
    have hlt : q.arguments.length < UInt32.size := h _ (by simp [sizes])
    rw [List.length_replicate] at hlt
    exact Nat.lt_irrefl _ hlt
  exact ⟨⟨hp, (round_trip_at_limits p).1 hp⟩, hq, (round_trip_at_limits q).2 hq⟩

end TaskGrid.Payload
