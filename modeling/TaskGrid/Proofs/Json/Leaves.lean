import Mathlib.Data.List.Basic
import TaskGrid.Json.Printer
import TaskGrid.Proofs.Json.Order

/-! The scalars of a document, with the paths that lead to them. Depth first is the order of the paths, so which
scalar comes after which is told without going through the document. -/
namespace TaskGrid.Json

inductive Segment where
  | member (name : String)
  | item (index : Nat)
  deriving DecidableEq, Repr

/-- Members come in the order of the bytes of their names, and items by their indices. -/
inductive Segment.Before : Segment → Segment → Prop
  | member {a b : String} (h : Utf8.encode a < Utf8.encode b) : Before (.member a) (.member b)
  | item {i j : Nat} (h : i < j) : Before (.item i) (.item j)

theorem Segment.Before.asymm {a b : Segment} (h : a.Before b) : ¬b.Before a := by
  rintro ⟨h'⟩
  · cases h with
    | member h => exact List.lex_asymm (fun h => UInt8.lt_asymm h) h ‹_›
  · cases h with
    | item h => omega

/-- What comes first when a document is gone through depth first. -/
def Earlier (path path' : List Segment) : Prop := List.Lex Segment.Before path path'

theorem Earlier.asymm {path path' : List Segment} (h : Earlier path path') : ¬Earlier path' path :=
  List.lex_asymm Segment.Before.asymm h

/-- A scalar with its text, at the end of a path. -/
inductive Leaf : Json → List Segment → String → Prop
  | null : Leaf .null [] ""
  | bool (b : Bool) : Leaf (.bool b) [] (render (.bool b))
  | num (n : Number) : Leaf (.num n) [] (render (.num n))
  | str (s : String) : Leaf (.str s) [] s
  | item {items : List Json} {index : Nat} {v : Json} {path : List Segment} {text : String}
      (found : items[index]? = some v) (within : Leaf v path text) :
      Leaf (.arr items) (.item index :: path) text
  | member {members : List (String × Json)} {m : String × Json} {path : List Segment} {text : String}
      (found : m ∈ members) (within : Leaf m.2 path text) : Leaf (.obj members) (.member m.1 :: path) text

mutual

/-- The scalars of a document as it lists them. -/
def scalars : Json → List (List Segment × String)
  | .null => [([], "")]
  | .bool b => [([], render (.bool b))]
  | .num n => [([], render (.num n))]
  | .str s => [([], s)]
  | .arr items => itemScalars 0 items
  | .obj members => memberScalars members

def itemScalars (index : Nat) : List Json → List (List Segment × String)
  | [] => []
  | v :: r => v.scalars.map (fun l => (.item index :: l.1, l.2)) ++ itemScalars (index + 1) r

def memberScalars : List (String × Json) → List (List Segment × String)
  | [] => []
  | (name, v) :: r => v.scalars.map (fun l => (.member name :: l.1, l.2)) ++ memberScalars r

end

theorem mem_itemScalars_iff {index : Nat} {items : List Json} {l : List Segment × String} :
    l ∈ itemScalars index items ↔
      ∃ i v, items[i]? = some v ∧ ∃ l' ∈ v.scalars, l = (.item (index + i) :: l'.1, l'.2) := by
  induction items generalizing index with
  | nil => simp [itemScalars]
  | cons v r ih =>
    rw [itemScalars, List.mem_append, List.mem_map, ih]
    constructor
    · rintro (⟨l', hl', rfl⟩ | ⟨i, v', hv', l', hl', rfl⟩)
      · exact ⟨0, v, rfl, l', hl', rfl⟩
      · exact ⟨i + 1, v', hv', l', hl', by rw [Nat.add_right_comm, Nat.add_assoc]⟩
    · rintro ⟨_ | i, v', hv', l', hl', rfl⟩
      · cases hv'
        exact .inl ⟨l', hl', rfl⟩
      · exact .inr ⟨i, v', hv', l', hl', by rw [Nat.add_right_comm, Nat.add_assoc]⟩

theorem mem_memberScalars_iff {members : List (String × Json)} {l : List Segment × String} :
    l ∈ memberScalars members ↔
      ∃ m ∈ members, ∃ l' ∈ m.2.scalars, l = (.member m.1 :: l'.1, l'.2) := by
  induction members with
  | nil => simp [memberScalars]
  | cons m r ih =>
    rw [memberScalars, List.mem_append, List.mem_map, ih, List.exists_mem_cons_iff]
    simp only [eq_comm]

theorem mem_scalars_iff {document : Json} {path : List Segment} {text : String} :
    (path, text) ∈ document.scalars ↔ document.Leaf path text := by
  constructor
  · intro h
    induction path generalizing document with
    | nil =>
      cases document with
      | null => cases List.mem_singleton.mp h; exact .null
      | bool b => cases List.mem_singleton.mp h; exact .bool _
      | num n => cases List.mem_singleton.mp h; exact .num _
      | str s => cases List.mem_singleton.mp h; exact .str _
      | arr items =>
        obtain ⟨i, v, -, l, -, he⟩ := mem_itemScalars_iff.mp h
        cases he
      | obj members =>
        obtain ⟨m, -, l, -, he⟩ := mem_memberScalars_iff.mp h
        cases he
    | cons segment path ih =>
      cases document with
      | null | bool | num | str => cases List.mem_singleton.mp h
      | arr items =>
        obtain ⟨i, v, hv, l, hl, he⟩ := mem_itemScalars_iff.mp h
        rw [Nat.zero_add] at he
        cases he
        exact .item hv (ih hl)
      | obj members =>
        obtain ⟨m, hm, l, hl, he⟩ := mem_memberScalars_iff.mp h
        cases he
        exact .member hm (ih hl)
  · intro h
    induction h with
    | null | bool | num | str => exact List.mem_singleton_self _
    | item found _ ih => exact mem_itemScalars_iff.mpr ⟨_, _, found, _, ih, by rw [Nat.zero_add]⟩
    | member found _ ih => exact mem_memberScalars_iff.mpr ⟨_, found, _, ih, rfl⟩

section Order

/-- One scalar of a list comes earlier than another. -/
abbrev InTurn (l l' : List Segment × String) : Prop := Earlier l.1 l'.1

theorem pairwise_map_cons (segment : Segment) {ls : List (List Segment × String)} (h : ls.Pairwise InTurn) :
    (ls.map fun l => (segment :: l.1, l.2)).Pairwise InTurn :=
  List.pairwise_map.mpr (h.imp List.Lex.cons)

theorem pairwise_itemScalars (index : Nat) {items : List Json} (h : ∀ v ∈ items, v.scalars.Pairwise InTurn) :
    (itemScalars index items).Pairwise InTurn := by
  induction items generalizing index with
  | nil => exact .nil
  | cons v r ih =>
    obtain ⟨hv, hr⟩ := List.forall_mem_cons.mp h
    refine List.pairwise_append.mpr ⟨pairwise_map_cons _ hv, ih (index + 1) hr, fun l hl l' hl' => ?_⟩
    obtain ⟨l, -, rfl⟩ := List.mem_map.mp hl
    obtain ⟨i, v', -, l', -, rfl⟩ := mem_itemScalars_iff.mp hl'
    exact .rel (.item (by omega))

theorem pairwise_memberScalars {members : List (String × Json)}
    (sorted : members.Pairwise fun m m' => Utf8.encode m.1 < Utf8.encode m'.1)
    (h : ∀ m ∈ members, m.2.scalars.Pairwise InTurn) : (memberScalars members).Pairwise InTurn := by
  induction members with
  | nil => exact .nil
  | cons m r ih =>
    obtain ⟨hm, hr⟩ := List.forall_mem_cons.mp h
    obtain ⟨hfirst, hrest⟩ := List.pairwise_cons.mp sorted
    refine List.pairwise_append.mpr ⟨pairwise_map_cons _ hm, ih hrest hr, fun l hl l' hl' => ?_⟩
    obtain ⟨l, -, rfl⟩ := List.mem_map.mp hl
    obtain ⟨m', hm', l', -, rfl⟩ := mem_memberScalars_iff.mp hl'
    exact .rel (.member (hfirst m' hm'))

theorem Ordered.pairwise_scalars {document : Json} (h : document.Ordered) :
    document.scalars.Pairwise InTurn := by
  induction h with
  | null | bool | num | str => exact List.pairwise_singleton ..
  | arr _ ih => exact pairwise_itemScalars 0 ih
  | obj sorted _ ih => exact pairwise_memberScalars sorted ih

end Order
end TaskGrid.Json
