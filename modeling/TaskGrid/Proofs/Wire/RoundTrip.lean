import TaskGrid.Proofs.Wire.Records
import TaskGrid.Wire.Messages

/-! Reading back what was written. The fields of a message are merged into the empty one in the order of the
schema; those of each part leave all other parts as they are. -/
namespace TaskGrid.Wire.Schema

section Merging
variable {α β γ : Type}

theorem mergeFields_of_reads {tables : List Nat} {limit : Nat} {bytes : Octets} {fs : List Field}
    (h : Reads tables limit bytes fs) (merge : Field → α → Option α) (x : α) :
    mergeFields tables limit merge x bytes = fs.foldlM (fun x f => merge f x) x := by
  rw [mergeFields, h.readAll, Option.bind_some]

/-- The fields of the first part, then those of the rest. -/
theorem foldlM_parts {m : Field → α × β → Option (α × β)} {m' : Field → β → Option β}
    {first rest : List Field} {x₀ x : α} {y₀ y : β}
    (hfirst : first.foldlM (fun v f => m f v) (x₀, y₀) = some (x, y₀))
    (hstep : ∀ f ∈ rest, ∀ y, m f (x, y) = (m' f y).map fun y => (x, y))
    (hrest : rest.foldlM (fun v f => m' f v) y₀ = some y) :
    (first ++ rest).foldlM (fun v f => m f v) (x₀, y₀) = some (x, y) := by
  rw [List.foldlM_append, hfirst]
  change rest.foldlM (fun v f => m f v) (x, y₀) = some (x, y)
  clear hfirst
  induction rest generalizing y₀ with
  | nil =>
    cases hrest
    rfl
  | cons f fs ih =>
    obtain ⟨hf, hfs⟩ := List.forall_mem_cons.mp hstep
    rw [List.foldlM_cons] at hrest ⊢
    obtain ⟨y₁, hy, hrest⟩ := Option.bind_eq_some_iff.mp hrest
    rw [hf, hy]
    exact ih hfs hrest

theorem foldlM_single {m : Field → γ → Option γ} {f : Field} {x y : γ} (h : m f x = some y) :
    [f].foldlM (fun v f => m f v) x = some y := by
  rw [List.foldlM_cons, h]
  rfl

/-- Values that are collected one after the other. -/
theorem foldlM_collect {m : Field → List α × β → Option (List α × β)} {field : α → Field}
    {l : List α} {y : β}
    (hstep : ∀ a ∈ l, ∀ before, m (field a) (before, y) = some (before ++ [a], y)) (before : List α) :
    (l.map field).foldlM (fun v f => m f v) (before, y) = some (before ++ l, y) := by
  induction l generalizing before with
  | nil => simp
  | cons a l ih =>
    obtain ⟨ha, hl⟩ := List.forall_mem_cons.mp hstep
    rw [List.map_cons, List.foldlM_cons, ha]
    exact (ih hl _).trans (by rw [List.append_assoc, List.singleton_append])

end Merging

/-- The fields of a message, merged one after the other into the empty one, are that message. -/
def Restores (s : Schema) (limit : Nat) (v : s.Value) : Prop :=
  ((s.records v).map Record.field).foldlM (fun x f => s.merge limit f x) s.empty = some v

def RestoresCase (s : Schema) (limit : Nat) (c : s.Case) : Prop :=
  s.mergeCase limit (s.caseRecord c).field none = some (some c)

/-- What is written of a message is read as that message. -/
def ReadsBack (s : Schema) (limit : Nat) (v : s.Value) : Prop :=
  mergeFields s.tables limit (s.merge limit) s.empty (s.encode v) = some v

theorem readEntry_encode (limit : Nat) {k v : String}
    (hsize : (entry.encode (k, v, ())).length < UInt64.size) :
    readEntry limit (entry.encode (k, v, ())) = some (k, v) := by
  have h : entry.WellNumbered := by decide
  have hreads : Reads [] limit _ _ := reads_encode h (fits_of_length hsize) limit
  have hread (n : Nat) (t : String) : Scalar.read? .text (Scalar.record n .text t).field.content = some t :=
    Scalar.read?_record n .text t
  rw [readEntry, mergeFields_of_reads hreads]
  simp only [entry, records, Scalar.records, List.append_nil]
  by_cases hk : k = "" <;> by_cases hv : v = "" <;> simp [Scalar.isZero, hk, hv, hread]

section Own
variable {n limit : Nat} {name : String} {body rest : Schema}

theorem merge_scalar (t : Scalar) (x x₀ : t.Value) (y : rest.Value) :
    (scalar n name t rest).merge limit (t.record n x).field (x₀, y) = some (x, y) := by
  rw [merge, Record.number_field, Scalar.number_record, if_pos rfl, Scalar.read?_record]
  rfl

theorem merge_texts (a : String) (before : List String) (y : rest.Value) :
    (texts n name rest).merge limit (Record.octets n (Utf8.encode a)).field (before, y) =
      some (before ++ [a], y) := by
  have hread : Scalar.read? .text (.octets (Utf8.encode a)) = some a := Scalar.read?_record n .text a
  rw [merge, Record.number_field, Record.number, if_pos rfl, Record.field, hread]
  rfl

theorem merge_table (t : Table String String) (y : rest.Value) {k v : String}
    (hsize : (entry.encode (k, v, ())).length < UInt64.size) :
    (table n name rest).merge limit (Record.octets n (entry.encode (k, v, ()))).field (t, y) =
      some (t.insert k v, y) := by
  rw [merge, Record.number_field, Record.number, if_pos rfl, Record.field, octets?, Option.bind_some,
    readEntry_encode (limit - 1) hsize]
  rfl

theorem merge_message {v : body.Value} (hv : body.ReadsBack (limit - 1) v) (y : rest.Value) :
    (message n name body rest).merge limit (Record.octets n (body.encode v)).field (none, y) =
      some (some v, y) := by
  rw [merge, Record.number_field, Record.number, if_pos rfl, Record.field, octets?, Option.bind_some,
    Option.getD_none, hv]
  rfl

theorem merge_messages {v : body.Value} (hv : body.ReadsBack (limit - 1) v) (before : List body.Value)
    (y : rest.Value) :
    (messages n name body rest).merge limit (Record.octets n (body.encode v)).field (before, y) =
      some (before ++ [v], y) := by
  rw [merge, Record.number_field, Record.number, if_pos rfl, Record.field, octets?, Option.bind_some, hv]
  rfl

end Own

section Parts
variable {n limit : Nat} {name : String} {t : Scalar} {body cases rest : Schema} {xs : rest.Value}

theorem number_ne_of_mem (hnew : n ∉ rest.numbers) {f : Field}
    (hf : f ∈ (rest.records xs).map Record.field) : f.number ≠ n := by
  obtain ⟨r, hr, rfl⟩ := List.mem_map.mp hf
  rw [Record.number_field]
  rintro rfl
  exact hnew ((number_mem_numbers rest).1 xs r hr)

theorem number_caseRecord_ne (hnew : n ∉ rest.numbers) (c : rest.Case) :
    (rest.caseRecord c).field.number ≠ n := by
  rw [Record.number_field]
  rintro rfl
  exact hnew ((number_mem_numbers rest).2 c)

theorem restores_scalar (hnew : n ∉ rest.numbers) (hrest : rest.Restores limit xs) (x : t.Value) :
    (scalar n name t rest).Restores limit (x, xs) := by
  unfold Restores
  rw [records, List.map_append]
  refine foldlM_parts ?_ (fun f hf y => ?_) hrest
  · rw [Scalar.records]
    split
    · next hzero =>
      rw [Scalar.eq_zero_of_isZero hzero]
      rfl
    · exact foldlM_single (merge_scalar t x _ _)
  · rw [merge, if_neg (number_ne_of_mem hnew hf)]
    rfl

theorem restores_texts (hnew : n ∉ rest.numbers) (hrest : rest.Restores limit xs)
    (x : List String) : (texts n name rest).Restores limit (x, xs) := by
  unfold Restores
  rw [records, List.map_append, List.map_map]
  refine foldlM_parts ?_ (fun f hf y => ?_) hrest
  · exact foldlM_collect (fun a _ before => merge_texts a before _) []
  · rw [merge, if_neg (number_ne_of_mem hnew hf)]
    rfl

theorem restores_table (hnew : n ∉ rest.numbers) (hrest : rest.Restores limit xs)
    (x : Table String String)
    (hsize : ∀ e ∈ x.entries, (entry.encode (e.1, e.2, ())).length < UInt64.size) :
    (table n name rest).Restores limit (x, xs) := by
  have hinsert (l : List (String × String)) (hl : ∀ e ∈ l, (entry.encode (e.1, e.2, ())).length < UInt64.size)
      (t : Table String String) :
      ((l.map fun e => Record.octets n (entry.encode (e.1, e.2, ()))).map Record.field).foldlM
        (fun v f => (table n name rest).merge limit f v) (t, rest.empty) = some (t.insertAll l, rest.empty) := by
    induction l generalizing t with
    | nil => rfl
    | cons e l ih =>
      obtain ⟨he, hl⟩ := List.forall_mem_cons.mp hl
      exact (congrArg (Option.bind · _) (merge_table t rest.empty he)).trans (ih hl _)
  have hall : Table.empty.insertAll x.entries = x := Table.ext (Table.entries_ofList x.distinct)
  unfold Restores
  rw [records, List.map_append]
  refine foldlM_parts ?_ (fun f hf y => ?_) hrest
  · exact (hinsert x.entries hsize Table.empty).trans (by rw [hall])
  · rw [merge, if_neg (number_ne_of_mem hnew hf)]
    rfl

theorem restores_message (hnew : n ∉ rest.numbers) (hrest : rest.Restores limit xs)
    {x : Option body.Value} (hbody : ∀ v ∈ x, body.ReadsBack (limit - 1) v) :
    (message n name body rest).Restores limit (x, xs) := by
  unfold Restores
  rw [records, List.map_append, List.map_map]
  refine foldlM_parts ?_ (fun f hf y => ?_) hrest
  · cases x with
    | none => rfl
    | some v => exact foldlM_single (merge_message (hbody v rfl) _)
  · rw [merge, if_neg (number_ne_of_mem hnew hf)]
    rfl

theorem restores_messages (hnew : n ∉ rest.numbers) (hrest : rest.Restores limit xs)
    {x : List body.Value} (hbody : ∀ v ∈ x, body.ReadsBack (limit - 1) v) :
    (messages n name body rest).Restores limit (x, xs) := by
  unfold Restores
  rw [records, List.map_append, List.map_map]
  refine foldlM_parts ?_ (fun f hf y => ?_) hrest
  · exact foldlM_collect (fun v hv before => merge_messages (hbody v hv) before _) []
  · rw [merge, if_neg (number_ne_of_mem hnew hf)]
    rfl

theorem restores_choice (hnew : ∀ n ∈ cases.numbers, n ∉ rest.numbers)
    (hrest : rest.Restores limit xs) {x : Option cases.Case}
    (hcase : ∀ c ∈ x, cases.RestoresCase limit c) :
    (choice name cases rest).Restores limit (x, xs) := by
  unfold Restores
  rw [records, List.map_append, List.map_map]
  refine foldlM_parts ?_ (fun f hf y => ?_) hrest
  · cases x with
    | none => rfl
    | some c =>
      have hc := hcase c rfl
      refine foldlM_single ?_
      rw [merge]
      dsimp only [Function.comp_apply]
      rw [hc]
      rfl
  · have hnot : f.number ∉ cases.numbers := fun hmem => number_ne_of_mem (hnew _ hmem) hf rfl
    rw [merge, mergeCase_of_not_mem hnot]
    rfl

theorem restoresCase_scalar (x : t.Value) :
    (scalar n name t rest).RestoresCase limit (.inl x) := by
  unfold RestoresCase
  rw [caseRecord, mergeCase, Record.number_field, Scalar.number_record, if_pos rfl, Scalar.read?_record]
  rfl

theorem restoresCase_after_scalar (hnew : n ∉ rest.numbers) {c : rest.Case}
    (hc : rest.RestoresCase limit c) : (scalar n name t rest).RestoresCase limit (.inr c) := by
  unfold RestoresCase at hc ⊢
  rw [caseRecord, mergeCase, if_neg (number_caseRecord_ne hnew c), Option.bind_none, hc]
  rfl

theorem restoresCase_message {v : body.Value} (hv : body.ReadsBack (limit - 1) v) :
    (message n name body rest).RestoresCase limit (.inl v) := by
  unfold RestoresCase
  rw [caseRecord, mergeCase, Record.number_field, Record.number, if_pos rfl, Record.field, octets?,
    Option.bind_some, Option.bind_none, Option.getD_none, hv]
  rfl

theorem restoresCase_after_message (hnew : n ∉ rest.numbers) {c : rest.Case}
    (hc : rest.RestoresCase limit c) : (message n name body rest).RestoresCase limit (.inr c) := by
  unfold RestoresCase at hc ⊢
  rw [caseRecord, mergeCase, if_neg (number_caseRecord_ne hnew c), Option.bind_none, hc]
  rfl

end Parts

theorem readsBack_of_restores {s : Schema} (h : s.WellNumbered) {limit : Nat}
    (hrestores : ∀ v : s.Value, (∀ r ∈ s.records v, r.Fits) → s.Restores limit v) {v : s.Value}
    (hfits : ∀ r ∈ s.records v, r.Fits) : s.ReadsBack limit v :=
  (mergeFields_of_reads (reads_encode h hfits limit) _ _).trans (hrestores v hfits)

/-- If the numbers can be told apart, every message and every choice is restored from its own fields. -/
theorem WellNumbered.restores {s : Schema} (h : s.WellNumbered) (limit : Nat) :
    (∀ v : s.Value, (∀ r ∈ s.records v, r.Fits) → s.Restores limit v) ∧
      ∀ c : s.Case, (s.caseRecord c).Fits → s.RestoresCase limit c := by
  -- A message within is read with a smaller limit, which decides nothing as no groups are written.
  induction s generalizing limit with
  | done => exact ⟨fun _ _ => rfl, fun c => nomatch c⟩
  | scalar n name t rest ih =>
    obtain ⟨-, -, hnew, hrest⟩ := h
    refine ⟨fun (x, xs) hfits => ?_, fun c hfits => ?_⟩
    · obtain ⟨-, hxs⟩ := List.forall_mem_append.mp hfits
      exact restores_scalar hnew ((ih hrest limit).1 xs hxs) x
    · cases c with
      | inl x => exact restoresCase_scalar x
      | inr c => exact restoresCase_after_scalar hnew ((ih hrest limit).2 c hfits)
  | texts n name rest ih =>
    obtain ⟨-, -, hnew, hrest⟩ := h
    refine ⟨fun (x, xs) hfits => ?_, fun c hfits => (ih hrest limit).2 c hfits⟩
    obtain ⟨-, hxs⟩ := List.forall_mem_append.mp hfits
    exact restores_texts hnew ((ih hrest limit).1 xs hxs) x
  | table n name rest ih =>
    obtain ⟨-, -, hnew, hrest⟩ := h
    refine ⟨fun (x, xs) hfits => ?_, fun c hfits => (ih hrest limit).2 c hfits⟩
    obtain ⟨hx, hxs⟩ := List.forall_mem_append.mp hfits
    exact restores_table hnew ((ih hrest limit).1 xs hxs) x fun e he => hx _ (List.mem_map_of_mem he)
  | message n name body rest ihbody ih =>
    obtain ⟨-, -, hnew, hbody, hrest⟩ := h
    have hback {v : body.Value} (hv : (body.encode v).length < UInt64.size) :
        body.ReadsBack (limit - 1) v :=
      readsBack_of_restores hbody (ihbody hbody (limit - 1)).1 (fits_of_length hv)
    refine ⟨fun (x, xs) hfits => ?_, fun c hfits => ?_⟩
    · obtain ⟨hx, hxs⟩ := List.forall_mem_append.mp hfits
      refine restores_message hnew ((ih hrest limit).1 xs hxs) fun v hv => hback ?_
      exact hx _ (List.mem_map_of_mem (Option.mem_toList.mpr hv))
    · cases c with
      | inl v => exact restoresCase_message (hback hfits)
      | inr c => exact restoresCase_after_message hnew ((ih hrest limit).2 c hfits)
  | messages n name body rest ihbody ih =>
    obtain ⟨-, -, hnew, hbody, hrest⟩ := h
    refine ⟨fun (x, xs) hfits => ?_, fun c hfits => (ih hrest limit).2 c hfits⟩
    obtain ⟨hx, hxs⟩ := List.forall_mem_append.mp hfits
    refine restores_messages hnew ((ih hrest limit).1 xs hxs) fun v hv => ?_
    exact readsBack_of_restores hbody (ihbody hbody (limit - 1)).1
      (fits_of_length (hx _ (List.mem_map_of_mem hv)))
  | choice name cases rest ihcases ih =>
    obtain ⟨hnew, hcases, hrest⟩ := h
    refine ⟨fun (x, xs) hfits => ?_, fun c hfits => (ih hrest limit).2 c hfits⟩
    obtain ⟨hx, hxs⟩ := List.forall_mem_append.mp hfits
    refine restores_choice hnew ((ih hrest limit).1 xs hxs) fun c hc => ?_
    exact (ihcases hcases limit).2 c (hx _ (List.mem_map_of_mem (Option.mem_toList.mpr hc)))

end TaskGrid.Wire.Schema

namespace TaskGrid.Wire.Message

/-- The numbers of all messages can be told apart. -/
theorem wellNumbered_of_mem {e : String × Schema} (h : e ∈ catalogue) : e.2.WellNumbered := by
  have hall : ∀ e ∈ catalogue, e.2.WellNumbered := by decide +kernel
  exact hall e h

/-- What is written of a message is read as that message, whatever is in it. Only the lengths of its parts have to
fit 64 bits, as those of all that memory can hold do. -/
theorem messages_round_trip {name : String} {s : Schema} (hs : (name, s) ∈ catalogue) (v : s.Value)
    (hfits : ∀ r ∈ s.records v, r.Fits) : s.decode? (s.encode v) = some v := by
  have h := wellNumbered_of_mem hs
  exact Schema.readsBack_of_restores h (h.restores Schema.maxGroups).1 hfits

/-- A submission with negative and absent numbers, empty texts and an empty message among its parts. -/
def sampleSubmission : submitTasksRequest.Value :=
  ("s", some (Table.ofList [("key", "ü"), ("", "")], some (-1, -2147483648, ()), -1, 0, "p", "a", "", "", "", "e", ()),
    [(["o", ""], [], "", none, ()), ([], ["d"], "r", some (Schema.empty _), ())], ())

theorem messages_round_trip_submission :
    ("SubmitTasksRequest", submitTasksRequest) ∈ catalogue ∧
      (∀ r ∈ submitTasksRequest.records sampleSubmission, r.Fits) ∧
      submitTasksRequest.decode? (submitTasksRequest.encode sampleSubmission) = some sampleSubmission := by
  have hs : ("SubmitTasksRequest", submitTasksRequest) ∈ catalogue := by decide +kernel
  have hfits : ∀ r ∈ submitTasksRequest.records sampleSubmission, r.Fits := by decide +kernel
  exact ⟨hs, hfits, messages_round_trip hs sampleSubmission hfits⟩

end TaskGrid.Wire.Message
