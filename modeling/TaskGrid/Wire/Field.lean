import TaskGrid.Wire.Varint

/-!
The fields of a message on the wire, before anything is known of their meaning: each is a number, a way
its content is framed, and the content. Groups are skipped up to their end marks.
-/

namespace TaskGrid.Wire

inductive Content where
  | varint (n : Nat)
  | fixed64
  | octets (bytes : Octets)
  | group
  | fixed32
  deriving DecidableEq, Repr

structure Field where
  number : Nat
  content : Content
  deriving DecidableEq, Repr

inductive Framing where
  | varint | fixed64 | delimited | groupStart | groupEnd | fixed32
  deriving DecidableEq, Repr

def Framing.ofNat? : Nat → Option Framing
  | 0 => some .varint
  | 1 => some .fixed64
  | 2 => some .delimited
  | 3 => some .groupStart
  | 4 => some .groupEnd
  | 5 => some .fixed32
  | _ => none

def Framing.toNat : Framing → Nat
  | .varint => 0
  | .fixed64 => 1
  | .delimited => 2
  | .groupStart => 3
  | .groupEnd => 4
  | .fixed32 => 5

structure Key where
  number : Nat
  framing : Framing
  deriving DecidableEq, Repr

def Key.write (k : Key) : Octets := Varint.write (8 * k.number + k.framing.toNat)

def maxKey : Nat := UInt32.size - 1

def Key.read (bytes : Octets) : Option (Key × Octets) :=
  (Varint.read bytes).bind fun (n, rest) =>
    if maxKey < n ∨ n / 8 = 0 then none
    else (Framing.ofNat? (n % 8)).map fun framing => (⟨n / 8, framing⟩, rest)

def take? (n : Nat) (bytes : Octets) : Option (Octets × Octets) :=
  if bytes.length < n then none else some (bytes.take n, bytes.drop n)

def readDelimited (bytes : Octets) : Option (Octets × Octets) :=
  (Varint.read bytes).bind fun (n, rest) => take? n rest

def readPlain : Framing → Octets → Option (Content × Octets)
  | .varint, bytes => (Varint.read bytes).map fun (n, rest) => (.varint n, rest)
  | .fixed64, bytes => (take? 8 bytes).map fun (_, rest) => (.fixed64, rest)
  | .delimited, bytes => (readDelimited bytes).map fun (b, rest) => (.octets b, rest)
  | .fixed32, bytes => (take? 4 bytes).map fun (_, rest) => (.fixed32, rest)
  | .groupStart, _ => none
  | .groupEnd, _ => none

theorem length_of_take? {n : Nat} {bytes a rest : Octets} (h : take? n bytes = some (a, rest)) :
    rest.length ≤ bytes.length := by
  unfold take? at h
  split at h
  · simp at h
  · simp only [Option.some.injEq, Prod.mk.injEq] at h
    rw [← h.2, List.length_drop]
    omega

theorem length_of_keyRead {k : Key} {bytes rest : Octets} (h : Key.read bytes = some (k, rest)) :
    rest.length < bytes.length := by
  obtain ⟨⟨n, r⟩, hn, h⟩ := Option.bind_eq_some_iff.mp h
  dsimp only at h
  split at h
  · simp at h
  · obtain ⟨f, -, e⟩ := Option.map_eq_some_iff.mp h
    simp only [Prod.mk.injEq] at e
    exact e.2 ▸ Varint.length_of_read hn

theorem length_of_readDelimited {bytes b rest : Octets} (h : readDelimited bytes = some (b, rest)) :
    rest.length ≤ bytes.length := by
  obtain ⟨⟨n, r⟩, hn, h⟩ := Option.bind_eq_some_iff.mp h
  exact Nat.le_trans (length_of_take? h) (Nat.le_of_lt (Varint.length_of_read hn))

theorem length_of_readPlain {f : Framing} {c : Content} {bytes rest : Octets}
    (h : readPlain f bytes = some (c, rest)) : rest.length ≤ bytes.length := by
  cases f <;> simp only [readPlain, Option.map_eq_some_iff, reduceCtorEq] at h
  · obtain ⟨⟨n, r⟩, hn, e⟩ := h
    simp only [Prod.mk.injEq] at e
    exact e.2 ▸ Nat.le_of_lt (Varint.length_of_read hn)
  · obtain ⟨⟨n, r⟩, hn, e⟩ := h
    simp only [Prod.mk.injEq] at e
    exact e.2 ▸ length_of_take? hn
  · obtain ⟨⟨n, r⟩, hn, e⟩ := h
    simp only [Prod.mk.injEq] at e
    exact e.2 ▸ length_of_readDelimited hn
  · obtain ⟨⟨n, r⟩, hn, e⟩ := h
    simp only [Prod.mk.injEq] at e
    exact e.2 ▸ length_of_take? hn

/-- What follows the end of the outermost of the open groups, innermost first. No field may stand in
`limit` groups or more. -/
def skipGroups (limit : Nat) (groups : List Nat) (bytes : Octets) : Option Octets :=
  match groups with
  | [] => some bytes
  | group :: outer =>
    match _h : Key.read bytes with
    | none => none
    | some (⟨number, .groupEnd⟩, rest) =>
      if number = group then skipGroups limit outer rest else none
    | some (⟨number, .groupStart⟩, rest) =>
      if (group :: outer).length < limit then skipGroups limit (number :: group :: outer) rest
      else none
    | some (⟨_, framing⟩, rest) =>
      if (group :: outer).length < limit then
        match _h' : readPlain framing rest with
        | none => none
        | some (_, rest) => skipGroups limit (group :: outer) rest
      else none
termination_by bytes.length
decreasing_by
  · exact length_of_keyRead _h
  · exact length_of_keyRead _h
  · exact Nat.lt_of_le_of_lt (length_of_readPlain _h') (length_of_keyRead _h)

theorem length_of_skipGroups {limit : Nat} {groups : List Nat} {bytes rest : Octets}
    (h : skipGroups limit groups bytes = some rest) : rest.length ≤ bytes.length := by
  fun_induction skipGroups limit groups bytes generalizing rest with
  | case1 => simp at h; simp [h]
  | case2 => simp at h
  | case3 _ group outer r hk ih =>
    exact Nat.le_trans (ih h) (Nat.le_of_lt (length_of_keyRead hk))
  | case4 => simp at h
  | case5 _ _ _ _ _ hk _ ih => exact Nat.le_trans (ih h) (Nat.le_of_lt (length_of_keyRead hk))
  | case6 => simp at h
  | case7 => simp at h
  | case8 _ _ _ _ _ _ _ _ hk _ _ _ hp ih =>
    exact Nat.le_trans (ih h)
      (Nat.le_trans (length_of_readPlain hp) (Nat.le_of_lt (length_of_keyRead hk)))
  | case9 => simp at h

/-- The first field of an input. The fields that `tables` names are framed as delimited bytes whatever
their keys say. -/
def Field.read (tables : List Nat) (limit : Nat) (bytes : Octets) : Option (Field × Octets) :=
  (Key.read bytes).bind fun (key, rest) =>
    if key.number ∈ tables then
      (readDelimited rest).map fun (b, rest) => (⟨key.number, .octets b⟩, rest)
    else if key.framing = .groupStart then
      (skipGroups limit [key.number] rest).map fun rest => (⟨key.number, .group⟩, rest)
    else (readPlain key.framing rest).map fun (c, rest) => (⟨key.number, c⟩, rest)

theorem length_of_fieldRead {tables : List Nat} {limit : Nat} {f : Field} {bytes rest : Octets}
    (h : Field.read tables limit bytes = some (f, rest)) : rest.length < bytes.length := by
  obtain ⟨⟨k, r⟩, hk, h⟩ := Option.bind_eq_some_iff.mp h
  refine Nat.lt_of_le_of_lt ?_ (length_of_keyRead hk)
  dsimp only at h
  split at h
  · obtain ⟨⟨b, t⟩, hb, e⟩ := Option.map_eq_some_iff.mp h
    simp only [Prod.mk.injEq] at e
    exact e.2 ▸ length_of_readDelimited hb
  split at h
  · obtain ⟨t, ht, e⟩ := Option.map_eq_some_iff.mp h
    simp only [Prod.mk.injEq] at e
    exact e.2 ▸ length_of_skipGroups ht
  · obtain ⟨⟨c, t⟩, hc, e⟩ := Option.map_eq_some_iff.mp h
    simp only [Prod.mk.injEq] at e
    exact e.2 ▸ length_of_readPlain hc

def Field.readAll (tables : List Nat) (limit : Nat) (bytes : Octets) : Option (List Field) :=
  if bytes = [] then some []
  else match _h : Field.read tables limit bytes with
    | none => none
    | some (f, rest) => (Field.readAll tables limit rest).map (f :: ·)
termination_by bytes.length
decreasing_by exact length_of_fieldRead _h

end TaskGrid.Wire
