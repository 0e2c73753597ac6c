import TaskGrid.Proofs.Json.Leaves
import TaskGrid.Proofs.Settings.Edits

/-! What a document does to settings: a scalar is written under the key that its path makes, and of scalars whose
paths make the same key the last one stays. -/
namespace TaskGrid

/-- A segment as it is written in a key, before its section marks are spelled out. -/
def Json.Segment.name : Json.Segment → String
  | .member name => name
  | .item index => toString index

namespace Settings
open Json (Segment Earlier Leaf)

/-- A segment of a key: a name with its section marks spelled out, or an index in decimal. -/
def segmentText : Segment → String
  | .member name => spell name
  | .item index => toString index

/-- The key that a path makes. Empty segments at its beginning leave no trace. -/
def flatten (path : List Segment) : String :=
  sectionMark.intercalate ((path.map segmentText).dropWhile (· = ""))

/-- A scalar that a document has under a key, and the last one that it has there. -/
structure LastUnder (document : Json) (key : String) (path : List Segment) (value : String) : Prop where
  leaf : document.Leaf path value
  flat : flatten path = key
  last : ∀ path' value', document.Leaf path' value' → flatten path' = key → path' = path ∨ Earlier path' path

theorem plain_toString (n : Nat) : Plain (toString n) := by
  have hdigit : ∀ c ∈ (toString n).toList, c.isDigit := by
    intro c hc
    rw [Nat.toString_eq_repr, Nat.toList_repr] at hc
    exact Nat.isDigit_of_mem_toDigits (by decide) (by decide) hc
  constructor
  · intro h
    cases hdigit _ h
  · intro h
    cases hdigit _ h

theorem segmentText_eq (segment : Segment) : segmentText segment = spell segment.name := by
  cases segment with
  | member name => rfl
  | item index => exact (spell_of_plain (plain_toString index)).symm

/-- Below a key that is not empty, every segment is joined to it. -/
theorem foldl_childKey_of_ne {key : String} (h : key ≠ "") (names : List String) :
    names.foldl childKey key = sectionMark.intercalate (key :: names.map spell) := by
  induction names generalizing key with
  | nil => rfl
  | cons name r ih =>
    rw [List.foldl_cons, childKey, if_neg h, ih (by simp [h])]
    rfl

/-- Segments that are empty are passed by as long as there is no key yet. -/
theorem foldl_childKey_empty (names : List String) :
    names.foldl childKey "" = sectionMark.intercalate ((names.map spell).dropWhile (· = "")) := by
  induction names with
  | nil => rfl
  | cons name r ih =>
    have hchild : childKey "" name = spell name := if_pos rfl
    rw [List.foldl_cons, hchild, List.map_cons, List.dropWhile_cons]
    by_cases hname : spell name = ""
    · rw [hname, ih]
      rfl
    · rw [foldl_childKey_of_ne hname]
      simp [hname]

theorem flatten_eq (path : List Segment) : flatten path = (path.map Segment.name).foldl childKey "" := by
  rw [foldl_childKey_empty, flatten, List.map_map]
  exact congrArg (fun f => sectionMark.intercalate ((path.map f).dropWhile (· = ""))) (funext segmentText_eq)

mutual

theorem leafPaths_eq : ∀ document : Json,
    document.leafPaths = document.scalars.map fun l => (l.1.map Segment.name, l.2)
  | .null => rfl
  | .bool b => by cases b <;> rfl
  | .num _ => rfl
  | .str _ => rfl
  | .arr items => itemPaths_eq 0 items
  | .obj members => memberPaths_eq members

theorem itemPaths_eq (index : Nat) : ∀ items : List Json, Json.itemPaths index items =
    (Json.itemScalars index items).map fun l => (l.1.map Segment.name, l.2)
  | [] => rfl
  | v :: r => by
    rw [Json.itemPaths, Json.itemScalars, leafPaths_eq v, itemPaths_eq (index + 1) r, List.map_append,
      List.map_map, List.map_map]
    rfl

theorem memberPaths_eq : ∀ members : List (String × Json), Json.memberPaths members =
    (Json.memberScalars members).map fun l => (l.1.map Segment.name, l.2)
  | [] => rfl
  | (name, v) :: r => by
    rw [Json.memberPaths, Json.memberScalars, leafPaths_eq v, memberPaths_eq r, List.map_append, List.map_map,
      List.map_map]
    rfl

end

theorem leaves_eq_flatten (document : Json) :
    leaves "" document = document.scalars.map fun l => (flatten l.1, l.2) := by
  rw [leaves_eq, leafPaths_eq, List.map_map]
  exact List.map_congr_left fun l _ => Prod.ext (flatten_eq l.1).symm rfl

/-- The last of the elements that are wanted comes after all others of them. -/
theorem eq_or_of_getLast?_filter {α : Type} {l : List α} {R : α → α → Prop} (h : l.Pairwise R) {p : α → Bool}
    {x : α} (hx : (l.filter p).getLast? = some x) : ∀ y ∈ l, p y → y = x ∨ R y x := by
  obtain ⟨before, hl⟩ := List.getLast?_eq_some_iff.mp hx
  have hpair := (h.filter p)
  rw [hl] at hpair
  intro y hy hp
  rcases List.mem_append.mp (hl ▸ List.mem_filter.mpr ⟨hy, hp⟩) with hy | hy
  · exact .inr ((List.pairwise_append.mp hpair).2.2 y hy x (List.mem_singleton_self x))
  · exact .inl (List.mem_singleton.mp hy)

def scalarsUnder (document : Json) (key : String) : List (List Segment × String) :=
  document.scalars.filter fun l => flatten l.1 = key

theorem mem_scalarsUnder_iff {document : Json} {key : String} {path : List Segment} {value : String} :
    (path, value) ∈ scalarsUnder document key ↔ document.Leaf path value ∧ flatten path = key := by
  rw [scalarsUnder, List.mem_filter, Json.mem_scalars_iff, decide_eq_true_eq]

theorem lastUnder_iff {document : Json} (h : document.Ordered) {key : String} {path : List Segment}
    {value : String} :
    LastUnder document key path value ↔ (scalarsUnder document key).getLast? = some (path, value) := by
  constructor
  · rintro ⟨hleaf, hflat, hlast⟩
    have hmem := mem_scalarsUnder_iff.mpr ⟨hleaf, hflat⟩
    obtain ⟨⟨path', value'⟩, hx⟩ := Option.ne_none_iff_exists'.mp
      (mt List.getLast?_eq_none_iff.mp (List.ne_nil_of_mem hmem))
    obtain ⟨hleaf', hflat'⟩ := mem_scalarsUnder_iff.mp (List.mem_of_getLast? hx)
    rw [hx]
    -- neither of the two comes before the other
    rcases eq_or_of_getLast?_filter h.pairwise_scalars hx _ (Json.mem_scalars_iff.mpr hleaf)
      (decide_eq_true hflat) with heq | hearlier
    · rw [heq]
    · rcases hlast path' value' hleaf' hflat' with rfl | hearlier'
      · exact absurd hearlier hearlier.asymm
      · exact absurd hearlier' hearlier.asymm
  · intro hx
    obtain ⟨hleaf, hflat⟩ := mem_scalarsUnder_iff.mp (List.mem_of_getLast? hx)
    refine ⟨hleaf, hflat, fun path' value' hleaf' hflat' => ?_⟩
    exact (eq_or_of_getLast?_filter h.pairwise_scalars hx _ (Json.mem_scalars_iff.mpr hleaf')
      (decide_eq_true hflat')).imp_left (congrArg Prod.fst)

theorem get?_setAll_leaves (s : Settings) (document : Json) (key : String) :
    (s.setAll (leaves "" document)).get? key =
      ((scalarsUnder document key).getLast?.map Prod.snd).or (s.get? key) := by
  have hplain : (leaves "" document).filter (fun w => spell w.1 = key) =
      (leaves "" document).filter (fun w => w.1 = key) :=
    List.filter_congr fun w hw => by rw [spell_of_plain (plain_of_mem_leaves w hw)]
  rw [get?_setAll, lastUnder, hplain, leaves_eq_flatten, List.filter_map, List.getLast?_map, Option.map_map]
  rfl

theorem addText_of_parse? (s : Settings) {text : String} {document : Json}
    (hparse : Json.parse? text = some document) (hobject : document.isObject) :
    s.addText text = .ok (s.setAll (leaves "" document)) := by
  rw [setAll_of_plain s plain_of_mem_leaves]
  simp only [addText, hparse, addDocument, hobject, if_true]

/-- A document that is added changes settings in the keys of its scalars alone, whatever they were. The value of a
key is then the text of the last scalar, in the order of paths, whose path makes that key, and the value from
before if there is none. -/
theorem document_flattened (s : Settings) {text : String} {document : Json}
    (hparse : Json.parse? text = some document) (hobject : document.isObject) :
    ∃ s', s.addText text = .ok s' ∧ ∀ key,
      (∀ path value, LastUnder document key path value → s'.get? key = some value) ∧
      ((∃ path value, document.Leaf path value ∧ flatten path = key) →
        ∃ path value, LastUnder document key path value) ∧
      ((∀ path value, document.Leaf path value → flatten path ≠ key) → s'.get? key = s.get? key) := by
  have hordered := Json.ordered_of_parse? hparse
  refine ⟨_, addText_of_parse? s hparse hobject, fun key => ⟨fun path value h => ?_, ?_, fun hnone => ?_⟩⟩
  · rw [get?_setAll_leaves, (lastUnder_iff hordered).mp h]
    rfl
  · rintro ⟨path, value, hleaf, hflat⟩
    have hne := List.ne_nil_of_mem (mem_scalarsUnder_iff.mpr ⟨hleaf, hflat⟩)
    exact ⟨_, _, (lastUnder_iff hordered).mpr (List.getLast?_eq_some_getLast hne)⟩
  · have hnil : scalarsUnder document key = [] := by
      refine List.eq_nil_iff_forall_not_mem.mpr fun l hl => ?_
      obtain ⟨hleaf, hflat⟩ := mem_scalarsUnder_iff.mp hl
      exact hnone _ _ hleaf hflat
    rw [get?_setAll_leaves, hnil]
    exact Option.none_or

/-- Several paths make one key: through names with marks, names that are empty, and indices. -/
def sampleText : String :=
  "\x7b\"Log.Level\":[1,null],\"Log\":\x7b\"Sinks\":[],\"Level\":\x7b\"1\":\"late\",\"0\":true\x7d\x7d,\"\":\x7b\"Log\":0\x7d\x7d"

def sampleDocument : Json := (Json.parse? sampleText).getD .null

theorem document_flattened_sampleText :
    Json.parse? sampleText = some sampleDocument ∧ sampleDocument.isObject ∧
      ∃ s', (empty.set "Log.Sinks" "old").addText sampleText = .ok s' ∧ s'.get? "Log" = some "0" ∧
        s'.get? "Log__Level__1" = some "" ∧ s'.get? "Log__Sinks" = some "old" := by
  have hsome : (Json.parse? sampleText).isSome := by decide +kernel
  have hparse : Json.parse? sampleText = some sampleDocument := by
    obtain ⟨document, h⟩ := Option.isSome_iff_exists.mp hsome
    rw [sampleDocument, h, Option.getD_some]
  have hobject : sampleDocument.isObject := by decide +kernel
  have hlast {key value : String} {path : List Segment}
      (h : (scalarsUnder sampleDocument key).getLast? = some (path, value)) :
      LastUnder sampleDocument key path value := (lastUnder_iff (Json.ordered_of_parse? hparse)).mpr h
  obtain ⟨s', hadd, hkeys⟩ := document_flattened (empty.set "Log.Sinks" "old") hparse hobject
  refine ⟨hparse, hobject, s', hadd, ?_, ?_, ?_⟩
  · exact (hkeys "Log").1 [.member "", .member "Log"] "0" (hlast (by decide +kernel))
  · exact (hkeys _).1 [.member "Log.Level", .item 1] "" (hlast (by decide +kernel))
  · have hnil : scalarsUnder sampleDocument "Log__Sinks" = [] := by decide +kernel
    rw [(hkeys "Log__Sinks").2.2]
    · decide +kernel
    · intro path value hleaf hflat
      have hmem := mem_scalarsUnder_iff.mpr ⟨hleaf, hflat⟩
      rw [hnil] at hmem
      cases hmem

end Settings
end TaskGrid
