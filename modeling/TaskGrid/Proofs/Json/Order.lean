import TaskGrid.Json.Reader
import TaskGrid.Proofs.Text.Order

/-! What is read from a text is in order: the members of an object, and those of the objects in it, come in the
order of the bytes of their names, so no two of one object have the same name. -/
namespace TaskGrid.Json

/-- The objects of a value list their members in increasing order of the bytes of their names. -/
inductive Ordered : Json → Prop
  | null : Ordered .null
  | bool (b : Bool) : Ordered (.bool b)
  | num (n : Number) : Ordered (.num n)
  | str (s : String) : Ordered (.str s)
  | arr {items : List Json} (within : ∀ v ∈ items, Ordered v) : Ordered (.arr items)
  | obj {members : List (String × Json)}
      (sorted : members.Pairwise fun m m' => Utf8.encode m.1 < Utf8.encode m'.1)
      (within : ∀ m ∈ members, Ordered m.2) : Ordered (.obj members)

section Members
variable {name : String} {value : Json} {members : List (String × Json)}

theorem mem_of_mem_insertMember {m : String × Json} (h : m ∈ insertMember name value members) :
    m = (name, value) ∨ m ∈ members := by
  induction members with
  | nil => exact .inl (List.mem_singleton.mp h)
  | cons m' r ih =>
    unfold insertMember at h
    split_ifs at h
    · exact List.mem_cons.mp h
    · exact (List.mem_cons.mp h).imp_right (List.mem_cons_of_mem m')
    · rcases List.mem_cons.mp h with rfl | h
      · exact .inr (List.mem_cons_self ..)
      · exact (ih h).imp_right (List.mem_cons_of_mem m')

theorem pairwise_insertMember (h : members.Pairwise fun m m' => m.1 < m'.1) :
    (insertMember name value members).Pairwise fun m m' => m.1 < m'.1 := by
  induction members with
  | nil => exact List.pairwise_singleton ..
  | cons m' r ih =>
    obtain ⟨hfirst, hrest⟩ := List.pairwise_cons.mp h
    unfold insertMember
    split_ifs with hlt heq
    · refine List.pairwise_cons.mpr ⟨fun m hm => ?_, h⟩
      rcases List.mem_cons.mp hm with rfl | hm
      · exact hlt
      · exact hlt.trans (hfirst m hm)
    · subst heq
      exact List.pairwise_cons.mpr ⟨hfirst, hrest⟩
    · refine List.pairwise_cons.mpr ⟨fun m hm => ?_, ih hrest⟩
      rcases mem_of_mem_insertMember hm with rfl | hm
      · exact lt_of_le_of_ne (not_lt.mp hlt) (Ne.symm heq)
      · exact hfirst m hm

theorem ordered_object (h : ∀ m ∈ members, Ordered m.2) : Ordered (object members) := by
  have hfold (read : List (String × Json)) (hsorted : read.Pairwise fun m m' => m.1 < m'.1)
      (hread : ∀ m ∈ read, Ordered m.2) :
      Ordered (.obj (members.foldl (fun ms m => insertMember m.1 m.2 ms) read)) := by
    induction members generalizing read with
    | nil => exact .obj (hsorted.imp Utf8.encode_lt_encode) hread
    | cons m r ih =>
      obtain ⟨hm, hr⟩ := List.forall_mem_cons.mp h
      refine ih hr _ (pairwise_insertMember hsorted) fun m' hm' => ?_
      rcases mem_of_mem_insertMember hm' with rfl | hmem
      · exact hm
      · exact hread m' hmem
  exact hfold [] .nil nofun

end Members

section Readers
variable {α β : Type} {P : α → Prop}

/-- Whatever a reader takes off the front of an input is as it should be. -/
def Yields (read : Reader α) (P : α → Prop) : Prop := ∀ cs v r, read cs = some (v, r) → P v

theorem yields_map {read : Reader α} (h : Yields read P) {Q : β → Prop} (f : α → β) (hf : ∀ v, P v → Q (f v)) :
    Yields (fun cs => (read cs).map fun (v, r) => (f v, r)) Q := by
  intro cs v r hread
  obtain ⟨⟨v', r'⟩, hv, he⟩ := Option.map_eq_some_iff.mp hread
  cases he
  exact hf _ (h _ _ _ hv)

theorem yields_afterSpaces {read : Reader α} (h : Yields read P) : Yields (afterSpaces read) P := by
  intro cs v r hread
  obtain ⟨⟨v', r'⟩, hv, he⟩ := Option.map_eq_some_iff.mp hread
  cases he
  exact h _ _ _ hv

theorem yields_readSeries (close : Char) {read : Reader α} (h : Yields read P) :
    Yields (readSeries close read) fun vs => ∀ v ∈ vs, P v := by
  intro cs vs r hread
  fun_induction readSeries close read cs generalizing vs with
  | case1 => cases hread
  | case2 cs v r hr hv t ht hmark =>
    cases hread
    exact List.forall_mem_singleton.mpr (yields_afterSpaces h _ _ _ hv)
  | case3 => cases hread
  | case4 cs v r hr hv hclose _ t ht hmark ih =>
    obtain ⟨⟨vs', r'⟩, hvs, he⟩ := Option.map_eq_some_iff.mp hread
    cases he
    exact List.forall_mem_cons.mpr ⟨yields_afterSpaces h _ _ _ hv, ih _ _ hvs⟩

theorem yields_readEnclosed (close : Char) {read : Reader α} (h : Yields read P) :
    Yields (readEnclosed close read) fun vs => ∀ v ∈ vs, P v := by
  intro cs vs r hread
  unfold readEnclosed at hread
  split at hread
  · cases hread
    exact List.forall_mem_nil P
  · exact yields_readSeries close h _ _ _ hread

theorem yields_afterBracket (c : Char) {read : Reader α} (h : Yields read P) :
    Yields (afterBracket c read) P := by
  intro cs v r hread
  cases cs with
  | nil => cases hread
  | cons d cs =>
    obtain ⟨-, hread⟩ := Option.ite_none_right_eq_some.mp hread
    obtain ⟨⟨v', r'⟩, hv, he⟩ := Option.map_eq_some_iff.mp hread
    cases he
    exact h _ _ _ hv

theorem yields_readMember (mode : Strictness) {read : String → Reader α} (h : ∀ name, Yields (read name) P) :
    Yields (readMember mode read) fun m => P m.2 := by
  intro cs m r hread
  obtain ⟨⟨name, t, ht⟩, -, hread⟩ := Option.bind_eq_some_iff.mp hread
  obtain ⟨⟨_, u, hu⟩, -, hread⟩ := Option.bind_eq_some_iff.mp hread
  obtain ⟨⟨v, w⟩, hv, he⟩ := Option.map_eq_some_iff.mp hread
  cases he
  exact yields_afterSpaces (h name) _ _ _ hv

theorem yields_readItems {read : Reader α} (h : Yields read P) :
    Yields (readItems read) fun vs => ∀ v ∈ vs, P v :=
  yields_afterBracket '[' (yields_readEnclosed ']' h)

theorem yields_readMembers (mode : Strictness) {read : String → Reader α} (h : ∀ name, Yields (read name) P) :
    Yields (readMembers mode read) fun ms => ∀ m ∈ ms, P m.2 :=
  yields_afterBracket _ (yields_readEnclosed _ (yields_readMember mode h))

end Readers

theorem yields_readNumber (mode : Strictness) : Yields (readNumber mode) Ordered := by
  intro cs v r hread
  obtain ⟨⟨p, t⟩, -, hread⟩ := Option.bind_eq_some_iff.mp hread
  dsimp only at hread
  split at hread
  · cases hread
    exact .num _
  · cases hread
    exact .null
  · cases hread

theorem yields_readWord (word : List Char) {value : Json} (h : value.Ordered) :
    Yields (readWord word value) Ordered := by
  intro cs v r hread
  unfold readWord at hread
  split at hread
  · cases hread
    exact h
  · cases hread

theorem yields_readValue (mode : Strictness) (depth : Nat) : Yields (readValue mode depth) Ordered := by
  have hstring : Yields (fun cs => (readString mode cs).map fun (s, r) => (.str s, r)) Ordered :=
    yields_map (P := fun _ => True) (fun _ _ _ _ => trivial) _ fun s _ => .str s
  have hnull := yields_readWord ['n', 'u', 'l', 'l'] .null
  have htrue := yields_readWord ['t', 'r', 'u', 'e'] (.bool true)
  have hfalse := yields_readWord ['f', 'a', 'l', 's', 'e'] (.bool false)
  have hnumber := yields_readNumber mode
  induction depth with
  | zero =>
    rintro (_ | ⟨c, cs⟩) v r
    · exact nofun
    · rw [readValue]
      split_ifs
      · exact hstring _ v r
      · exact hnull _ v r
      · exact htrue _ v r
      · exact hfalse _ v r
      · exact nofun
      · exact hnumber _ v r
  | succ depth ih =>
    have hitems := yields_map (yields_readItems ih) Json.arr fun _ => Ordered.arr
    have hmembers := yields_map (yields_readMembers mode fun _ => ih) object fun _ => ordered_object
    rintro (_ | ⟨c, cs⟩) v r
    · exact nofun
    · rw [readValue]
      split_ifs
      · exact hstring _ v r
      · exact hnull _ v r
      · exact htrue _ v r
      · exact hfalse _ v r
      · exact hitems _ v r
      · exact hmembers _ v r
      · exact hnumber _ v r

theorem ordered_of_parse? {text : String} {document : Json} (h : parse? text = some document) :
    document.Ordered := by
  obtain ⟨⟨v, r⟩, hv, hread⟩ := Option.bind_eq_some_iff.mp h
  obtain ⟨-, he⟩ := Option.ite_none_right_eq_some.mp hread
  cases he
  exact yields_afterSpaces (yields_readValue .strict maxDepth) _ _ _ hv

end TaskGrid.Json
