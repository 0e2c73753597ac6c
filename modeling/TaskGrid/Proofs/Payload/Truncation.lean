import TaskGrid.Proofs.Payload.RoundTrip

/-! Payloads of which only the beginning arrived. The loss is noticed unless it is a loss of whole dependencies.
Main statement: `truncation_noticed`. -/
namespace TaskGrid.Payload

def keeping (p : Payload) (k : Nat) : Payload := { p with dependencies := p.dependencies.take k }

/-- The bytes up to the end of the arguments, or of a dependency, once the payload is written. -/
def upTo (p : Payload) (k : Nat) : Octets := (p.fields.take (k + 2)).flatMap frame

/-- What is wrong with a field of which there are only some first bytes. -/
def torn (field : Octets) (left : Nat) : Flaw :=
  if left < lengthWidth then .truncatedLength left else .truncatedField field.length (left - lengthWidth)

variable {p : Payload} {bytes c : Octets}

theorem length_of_mem_fields (h : ∀ n ∈ p.sizes, n < UInt32.size) {field : Octets} (hf : field ∈ p.fields) :
    field.length < UInt32.size := by
  apply h
  rw [← map_length_fields]
  exact List.mem_map_of_mem hf

theorem fields_keeping (p : Payload) (k : Nat) : (p.keeping k).fields = p.fields.take (k + 2) := by
  simp only [keeping, fields, List.map_take, List.take_succ_cons]

theorem encode_keeping (h : p.encode = .ok bytes) (k : Nat) : (p.keeping k).encode = .ok (p.upTo k) := by
  obtain ⟨hfits, -⟩ := encode_eq_ok_iff.mp h
  refine encode_eq_ok_iff.mpr ⟨?_, by rw [fields_keeping, upTo]⟩
  rw [← map_length_fields, fields_keeping]
  intro n hn
  obtain ⟨field, hfield, rfl⟩ := List.mem_map.mp hn
  exact length_of_mem_fields hfits (List.mem_of_mem_take hfield)

theorem readField_frame {field : Octets} (h : field.length < UInt32.size) (rest : Octets) :
    ∃ hr, readField (frame field ++ rest) = .ok (field, ⟨rest, hr⟩) :=
  (valid_written h).readField rest

section
variable {field tail : Octets} (hfield : field.length < UInt32.size) (hbegins : tail <+: frame field)
  (hproper : tail ≠ frame field)
include hfield hbegins hproper

theorem readField_torn : readField tail = .error (torn field tail.length) := by
  unfold readField torn
  by_cases hw : tail.length < lengthWidth
  · rw [dif_pos hw, if_pos hw]
  · have hlt : tail.length < lengthWidth + field.length := by
      rw [← length_frame]
      exact Nat.lt_of_le_of_ne hbegins.length_le fun h => hproper (hbegins.eq_of_length h)
    have hdigits : tail.take lengthWidth = Hex.write lengthWidth field.length := by
      obtain ⟨rest, hrest⟩ := hbegins
      have htake : (tail ++ rest).take lengthWidth = tail.take lengthWidth :=
        List.take_append_of_le_length (Nat.le_of_not_lt hw)
      rw [← htake, hrest, frame, List.take_left' (Hex.length_write _ _)]
    have hread := Hex.read?_write lengthWidth field.length hfield
    rw [dif_neg hw, if_neg hw]
    simp only [hdigits, hread, List.length_drop]
    rw [if_pos (by omega)]

end

/-- The beginning of some fields is made of whole fields, and of a part of the next one. -/
theorem exists_torn_field {fields : List Octets} (hbegins : c <+: fields.flatMap frame)
    (hproper : c ≠ fields.flatMap frame) : ∃ (i : Nat) (hi : i < fields.length) (tail : Octets),
      tail <+: frame fields[i] ∧ tail ≠ frame fields[i] ∧ c = (fields.take i).flatMap frame ++ tail := by
  induction fields generalizing c with
  | nil => exact absurd (List.prefix_nil.mp hbegins) hproper
  | cons field r ih =>
    rw [List.flatMap_cons] at hbegins hproper
    by_cases hwhole : frame field <+: c
    · obtain ⟨c, rfl⟩ := hwhole
      obtain ⟨i, hi, tail, htail, hne, rfl⟩ := ih ((List.prefix_append_right_inj _).mp hbegins)
        fun h => hproper (congrArg _ h)
      exact ⟨i + 1, Nat.succ_lt_succ hi, tail, htail, hne, by simp⟩
    · have hpart := (List.prefix_or_prefix_of_prefix hbegins (List.prefix_append _ _)).resolve_right hwhole
      refine ⟨0, Nat.succ_pos _, c, hpart, ?_, rfl⟩
      rintro rfl
      exact hwhole (List.prefix_refl _)

theorem readDependencies_append {texts : List String}
    (h : ∀ t ∈ texts, (Utf8.encode t).length < UInt32.size) (tail : Octets) :
    readDependencies ((texts.map Utf8.encode).flatMap frame ++ tail) =
      (readDependencies tail).map (texts ++ ·) := by
  induction texts with
  | nil =>
    simp only [List.map_nil, List.flatMap_nil, List.nil_append]
    cases readDependencies tail <;> rfl
  | cons t r ih =>
    obtain ⟨ht, hr⟩ := List.forall_mem_cons.mp h
    obtain ⟨_, hread⟩ := readField_frame ht ((r.map Utf8.encode).flatMap frame ++ tail)
    have hne : frame (Utf8.encode t) ++ ((r.map Utf8.encode).flatMap frame ++ tail) ≠ [] :=
      (valid_written ht).bytes_append_ne_nil _
    rw [List.map_cons, List.flatMap_cons, List.append_assoc, readDependencies, if_neg hne]
    simp only [hread, Utf8.decode_encode, ih hr]
    cases readDependencies tail <;> rfl

theorem readDependencies_of_error {e : Flaw} (hne : c ≠ []) (h : readField c = .error e) :
    readDependencies c = .error e := by
  rw [readDependencies, if_neg hne]
  simp only [h]

/-- Once the method is read, the rest is up to the arguments and the dependencies. -/
theorem decode_frame {m : String} (h : (Utf8.encode m).length < UInt32.size) (rest : Octets) :
    decode (frame (Utf8.encode m) ++ rest) =
      (readField rest >>= fun x => (readDependencies x.2.val).map fun ds => ⟨m, x.1, ds⟩) := by
  obtain ⟨_, hread⟩ := readField_frame h rest
  simp only [decode, hread]
  simp only [bind, Except.bind, Utf8.decode_encode, Except.mapError]
  cases readField rest with
  | error e => rfl
  | ok x => simp only; cases readDependencies x.2.val <;> rfl

/-- Reading goes through the whole fields and fails at the next one. -/
theorem decode_torn (h : ∀ n ∈ p.sizes, n < UInt32.size) {i : Nat} (hi : i < p.fields.length) {tail : Octets}
    (hbegins : tail <+: frame p.fields[i]) (hproper : tail ≠ frame p.fields[i])
    (hsome : 2 ≤ i → tail ≠ []) :
    decode ((p.fields.take i).flatMap frame ++ tail) = .error (torn p.fields[i] tail.length) := by
  have hlength {field : Octets} (hf : field ∈ p.fields) := length_of_mem_fields h hf
  have htorn := readField_torn (hlength (List.getElem_mem hi)) hbegins hproper
  have hmethod : (Utf8.encode p.method).length < UInt32.size := hlength (by simp [fields])
  have harguments : p.arguments.length < UInt32.size := hlength (by simp [fields])
  generalize torn p.fields[i] tail.length = flaw at htorn ⊢
  obtain _ | _ | j := i
  · rw [List.take_zero, List.flatMap_nil, List.nil_append, decode, htorn]
    rfl
  · have hcut : (p.fields.take (0 + 1)).flatMap frame ++ tail = frame (Utf8.encode p.method) ++ tail := by
      simp [fields]
    rw [hcut, decode_frame hmethod, htorn]
    rfl
  · have hcut : (p.fields.take (j + 1 + 1)).flatMap frame ++ tail = frame (Utf8.encode p.method) ++
        (frame p.arguments ++ (((p.dependencies.take j).map Utf8.encode).flatMap frame ++ tail)) := by
      simp [fields]
    have htexts : ∀ t ∈ p.dependencies.take j, (Utf8.encode t).length < UInt32.size := by
      intro t ht
      apply hlength
      have hmem := List.mem_map_of_mem (f := Utf8.encode) (List.mem_of_mem_take ht)
      exact List.mem_cons_of_mem _ (List.mem_cons_of_mem _ hmem)
    obtain ⟨_, hread⟩ := readField_frame harguments
      (((p.dependencies.take j).map Utf8.encode).flatMap frame ++ tail)
    rw [hcut, decode_frame hmethod, hread]
    simp only [bind, Except.bind, readDependencies_append htexts,
      readDependencies_of_error (hsome (by omega)) htorn]
    rfl

/-- Of a payload that was written, a proper beginning is read exactly if it ends with the arguments or with a
dependency, and then as the payload with the dependencies that it still has. Any other beginning is malformed:
it lacks a part of a length, or of a field, which is the first one that it does not hold whole. -/
theorem truncation_noticed (h : p.encode = .ok bytes) (hbegins : c <+: bytes) (hproper : c ≠ bytes) :
    (∀ k, c = p.upTo k → k < p.dependencies.length ∧ decode c = .ok (p.keeping k)) ∧
    ((∀ k, c ≠ p.upTo k) → ∃ (i : Nat) (hi : i < p.fields.length) (left : Nat),
      left < (frame p.fields[i]).length ∧ c.length = ((p.fields.take i).flatMap frame).length + left ∧
      (decode c).mapError Flaw.toGrid = .error (.payloadFormat (torn p.fields[i] left).message)) := by
  obtain ⟨hfits, rfl⟩ := encode_eq_ok_iff.mp h
  constructor
  · rintro k rfl
    refine ⟨?_, decode_of_encode (encode_keeping h k)⟩
    by_contra hk
    apply hproper
    rw [upTo, List.take_of_length_le]
    simp only [fields, List.length_cons, List.length_map]
    omega
  · intro hinside
    obtain ⟨i, hi, tail, htail, hne, rfl⟩ := exists_torn_field hbegins hproper
    refine ⟨i, hi, tail.length, ?_, List.length_append, ?_⟩
    · exact Nat.lt_of_le_of_ne htail.length_le fun h => hne (htail.eq_of_length h)
    · rw [decode_torn hfits hi htail hne]
      · rfl
      · rintro htwo rfl
        apply hinside (i - 2)
        rw [upTo, List.append_nil, Nat.sub_add_cancel htwo]

/-- A payload whose last dependency ends with a character of two bytes. -/
def umlautPayload : Payload := ⟨"né", [0xFF, 0], ["r1", "für", "ü"]⟩

/-- Without its last two dependencies it is read; without its last byte it is not, though what is left of the
dependency is shorter only. -/
theorem truncation_noticed_umlaut :
    let p := umlautPayload
    let bytes := p.fields.flatMap frame
    let c := p.upTo 1
    let d := bytes.dropLast
    (p.encode = .ok bytes ∧ c <+: bytes ∧ c ≠ bytes ∧
      1 < p.dependencies.length ∧ decode c = .ok ⟨"né", [0xFF, 0], ["r1"]⟩) ∧
    (d <+: bytes ∧ d ≠ bytes ∧ (∀ k, d ≠ p.upTo k) ∧
      ∃ (i : Nat) (hi : i < p.fields.length) (left : Nat),
        left < (frame p.fields[i]).length ∧ d.length = ((p.fields.take i).flatMap frame).length + left ∧
        (decode d).mapError Flaw.toGrid = .error (.payloadFormat (torn p.fields[i] left).message)) := by
  intro p bytes c d
  have hencode : p.encode = .ok bytes := by decide +kernel
  have hc : c <+: bytes := by decide +kernel
  have hcne : c ≠ bytes := by decide +kernel
  have hdne : d ≠ bytes := by decide +kernel
  have hinside : ∀ k, d ≠ p.upTo k := by
    intro k
    match k with
    | 0 => decide +kernel
    | 1 => decide +kernel
    | 2 => decide +kernel
    | k + 3 =>
      have hwhole : p.upTo (k + 3) = bytes := by
        rw [upTo, List.take_of_length_le]
        simp [p, fields, umlautPayload]
      rwa [hwhole]
  have hd : d <+: bytes := List.dropLast_prefix bytes
  exact ⟨⟨hencode, hc, hcne, (truncation_noticed hencode hc hcne).1 1 rfl⟩,
    hd, hdne, hinside, (truncation_noticed hencode hd hdne).2 hinside⟩

end TaskGrid.Payload
