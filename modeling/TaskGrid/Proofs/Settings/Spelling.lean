import TaskGrid.Settings.Basic

/-! How names become keys: section marks are spelled out character by character, so it does not matter whether that
is done to the names on a path or to the path, nor which marks a name is written with. -/
namespace TaskGrid

mutual

/-- The scalars in a document, depth first, each behind the names and indices that lead to it. -/
def Json.leafPaths : Json → List (List String × String)
  | .null => [([], "")]
  | .bool b => [([], if b then "true" else "false")]
  | .num n => [([], n.text)]
  | .str s => [([], s)]
  | .arr items => itemPaths 0 items
  | .obj members => memberPaths members

def Json.itemPaths (index : Nat) : List Json → List (List String × String)
  | [] => []
  | v :: r => v.leafPaths.map (fun l => (toString index :: l.1, l.2)) ++ itemPaths (index + 1) r

def Json.memberPaths : List (String × Json) → List (List String × String)
  | [] => []
  | (name, v) :: r => v.leafPaths.map (fun l => (name :: l.1, l.2)) ++ memberPaths r

end

/-- The members of a document have names; those of its parts may have none. -/
def Json.Named : Json → Prop
  | .obj members => ∀ m ∈ members, m.1 ≠ ""
  | _ => True

instance : DecidablePred Json.Named
  | .obj members => inferInstanceAs (Decidable (∀ m ∈ members, m.1 ≠ ""))
  | .null | .bool _ | .num _ | .str _ | .arr _ => inferInstanceAs (Decidable True)

namespace Settings

/-- A key as it is stored. -/
def Plain (key : String) : Prop := '.' ∉ key.toList ∧ ':' ∉ key.toList

/-- The ways to write a section mark. -/
def marks : List String := [".", ":", sectionMark]

/-- The same name, but for the ways its section marks are written. -/
inductive Respelled : String → String → Prop
  | nil : Respelled "" ""
  | text {a b : String} (x : String) (h : Respelled a b) : Respelled (x ++ a) (x ++ b)
  | mark {a b m m' : String} (hm : m ∈ marks) (hm' : m' ∈ marks) (h : Respelled a b) :
      Respelled (m ++ a) (m' ++ b)

def pathName (path : List String) : String := sectionMark.intercalate path

theorem toList_spell (key : String) : (spell key).toList = key.toList.flatMap spellChar := by
  rw [spell, String.toList_ofList]

@[simp] theorem spell_append (a b : String) : spell (a ++ b) = spell a ++ spell b := by
  apply String.toList_injective
  simp only [toList_spell, String.toList_append, List.flatMap_append]

theorem plain_append {a b : String} : Plain (a ++ b) ↔ Plain a ∧ Plain b := by
  simp only [Plain, String.toList_append, List.mem_append, not_or]
  exact and_and_and_comm

theorem plain_sectionMark : Plain sectionMark := by
  simp [Plain, sectionMark]

theorem plain_spell (key : String) : Plain (spell key) := by
  have hchar (c : Char) : '.' ∉ spellChar c ∧ ':' ∉ spellChar c := by
    unfold spellChar
    split
    · simp [sectionMark]
    · next h =>
      simp only [Bool.or_eq_true, decide_eq_true_eq, not_or] at h
      exact ⟨by simpa using Ne.symm h.1, by simpa using Ne.symm h.2⟩
  simp only [Plain, toList_spell, List.mem_flatMap, not_exists, not_and]
  exact ⟨fun c _ => (hchar c).1, fun c _ => (hchar c).2⟩

theorem spell_of_plain {key : String} (h : Plain key) : spell key = key := by
  have hchar : ∀ c ∈ key.toList, spellChar c = [c] := by
    intro c hc
    have hdot : c ≠ '.' := fun e => h.1 (e ▸ hc)
    have hcolon : c ≠ ':' := fun e => h.2 (e ▸ hc)
    simp [spellChar, hdot, hcolon]
  apply String.toList_injective
  rw [toList_spell, List.flatMap_def, List.map_congr_left hchar, ← List.flatMap_def, List.flatMap_singleton']

theorem spell_ne_empty {key : String} (h : key ≠ "") : spell key ≠ "" := by
  have hchar (c : Char) : spellChar c ≠ [] := by
    unfold spellChar
    split
    · decide
    · exact List.cons_ne_nil c []
  intro hspell
  have hnil : key.toList.flatMap spellChar = [] := by rw [← toList_spell, hspell, String.toList_empty]
  refine h (String.toList_eq_nil_iff.mp (List.eq_nil_iff_forall_not_mem.mpr fun c hc => ?_))
  exact hchar c (List.flatMap_eq_nil_iff.mp hnil c hc)

/-- Marks written otherwise make the same key. -/
theorem Respelled.spell_eq {a b : String} (h : Respelled a b) : spell a = spell b := by
  have hmark : ∀ m ∈ marks, spell m = sectionMark := by decide +kernel
  induction h with
  | nil => rfl
  | text x _ ih => rw [spell_append, spell_append, ih]
  | mark hm hm' _ ih => rw [spell_append, spell_append, hmark _ hm, hmark _ hm', ih]

theorem plain_childKey {path : String} (h : Plain path) (name : String) : Plain (childKey path name) := by
  unfold childKey
  split
  · exact plain_spell name
  · exact plain_append.mpr ⟨plain_append.mpr ⟨h, plain_sectionMark⟩, plain_spell name⟩

/-- Going down a path from a name that is there is spelling the whole. -/
theorem foldl_childKey {name : String} (h : name ≠ "") (path : List String) :
    path.foldl childKey (spell name) = spell (pathName (name :: path)) := by
  -- What was gone down so far counts as one name, and it is there as its beginning is.
  induction path generalizing name with
  | nil => rfl
  | cons n path ih =>
    have hchild : childKey (spell name) n = spell (name ++ sectionMark ++ n) := by
      rw [childKey, if_neg (spell_ne_empty h), spell_append, spell_append, spell_of_plain plain_sectionMark]
    have hne : name ++ sectionMark ++ n ≠ "" := by simp [h]
    rw [List.foldl_cons, hchild, ih hne]
    rfl

mutual

theorem leaves_eq (path : String) : ∀ document : Json,
    leaves path document = document.leafPaths.map fun l => (l.1.foldl childKey path, l.2)
  | .null => rfl
  | .bool _ => rfl
  | .num _ => rfl
  | .str _ => rfl
  | .arr items => by rw [leaves, Json.leafPaths, itemLeaves_eq path 0 items]
  | .obj members => by rw [leaves, Json.leafPaths, memberLeaves_eq path members]

theorem itemLeaves_eq (path : String) (index : Nat) : ∀ items : List Json, itemLeaves path index items =
    (Json.itemPaths index items).map fun l => (l.1.foldl childKey path, l.2)
  | [] => rfl
  | v :: r => by
    rw [itemLeaves, leaves_eq (childKey path (toString index)) v, itemLeaves_eq path (index + 1) r,
      Json.itemPaths, List.map_append, List.map_map]
    rfl

theorem memberLeaves_eq (path : String) : ∀ members : List (String × Json), memberLeaves path members =
    (Json.memberPaths members).map fun l => (l.1.foldl childKey path, l.2)
  | [] => rfl
  | (name, v) :: r => by
    rw [memberLeaves, leaves_eq (childKey path name) v, memberLeaves_eq path r, Json.memberPaths,
      List.map_append, List.map_map]
    rfl

end

theorem plain_of_mem_leaves {document : Json} : ∀ w ∈ leaves "" document, Plain w.1 := by
  have hfold (path : List String) {key : String} (h : Plain key) : Plain (path.foldl childKey key) := by
    induction path generalizing key with
    | nil => exact h
    | cons name path ih => exact ih (plain_childKey h name)
  intro w hw
  rw [leaves_eq] at hw
  obtain ⟨l, -, rfl⟩ := List.mem_map.mp hw
  exact hfold l.1 (by simp [Plain])

theorem mem_memberPaths {members : List (String × Json)} {l : List String × String}
    (h : l ∈ Json.memberPaths members) : ∃ m ∈ members, ∃ path, l.1 = m.1 :: path := by
  induction members with
  | nil => cases h
  | cons m r ih =>
    rcases List.mem_append.mp h with hm | hr
    · obtain ⟨l', -, rfl⟩ := List.mem_map.mp hm
      exact ⟨m, List.mem_cons_self .., l'.1, rfl⟩
    · obtain ⟨m', hm', path, hpath⟩ := ih hr
      exact ⟨m', List.mem_cons_of_mem _ hm', path, hpath⟩

/-- In a document whose members have names, a scalar is under the spelled path to it. -/
theorem leaves_of_named {document : Json} (hobject : document.isObject) (h : document.Named) :
    leaves "" document = document.leafPaths.map fun l => (spell (pathName l.1), l.2) := by
  cases document with
  | obj members =>
    rw [leaves_eq]
    refine List.map_congr_left fun l hl => ?_
    obtain ⟨m, hm, path, hpath⟩ := mem_memberPaths hl
    rw [hpath, ← foldl_childKey (h m hm)]
    rfl
  | _ => cases hobject

end Settings
end TaskGrid
