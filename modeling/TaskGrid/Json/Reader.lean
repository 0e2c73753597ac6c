import TaskGrid.Json.Numeral

/-!
Reading JSON texts. A reader takes a nonempty part off the front of its input, so reading ends. Nesting
is limited; members of an object come in increasing order of names, the last of one name winning.
-/

namespace TaskGrid.Json

abbrev Rest (cs : List Char) := { r : List Char // r.length < cs.length }

abbrev Reader (α : Type) := (cs : List Char) → Option (α × Rest cs)

/-- Whether a reader lets pass what no value can hold: lone halves of surrogate pairs, and numbers
that are too large. Parts of a document that nobody asks for are read that way. -/
inductive Strictness where
  | strict
  | lenient
  deriving DecidableEq, Repr

def isSpace (c : Char) : Bool := c == ' ' || c == '\t' || c == '\n' || c == '\r'

def skipSpaces (cs : List Char) : List Char := cs.dropWhile isSpace

theorem length_dropWhile_le (p : Char → Bool) (cs : List Char) :
    (cs.dropWhile p).length ≤ cs.length := (List.dropWhile_suffix p).length_le

theorem length_skipSpaces_le (cs : List Char) : (skipSpaces cs).length ≤ cs.length :=
  length_dropWhile_le isSpace cs

def hexValue? (c : Char) : Option Nat :=
  if '0' ≤ c ∧ c ≤ '9' then some (c.toNat - 0x30)
  else if 'a' ≤ c ∧ c ≤ 'f' then some (c.toNat - 0x57)
  else if 'A' ≤ c ∧ c ≤ 'F' then some (c.toNat - 0x37)
  else none

def unit? (a b c d : Char) : Option Nat := do
  return ((← hexValue? a) * 16 + (← hexValue? b)) * 256 + (← hexValue? c) * 16 + (← hexValue? d)

def simpleEscape? : Char → Option Char
  | '"' => some '"'
  | '\\' => some '\\'
  | '/' => some '/'
  | 'b' => some (Char.ofNat 8)
  | 'f' => some (Char.ofNat 12)
  | 'n' => some '\n'
  | 'r' => some '\r'
  | 't' => some '\t'
  | _ => none

def consChar (c : Char) (r : Option (List Char × List Char)) : Option (List Char × List Char) :=
  r.map fun (cs, rest) => (c :: cs, rest)

def isHighSurrogate (n : Nat) : Bool := 0xD800 ≤ n && n < 0xDC00

def isLowSurrogate (n : Nat) : Bool := 0xDC00 ≤ n && n < 0xE000

def readChars (mode : Strictness) : List Char → Option (List Char × List Char)
  | [] => none
  | '"' :: r => some ([], r)
  | '\\' :: 'u' :: a :: b :: c :: d :: r => (unit? a b c d).bind fun n =>
    if mode = .lenient then consChar (Char.ofNat 0xFFFD) (readChars mode r)
    else if isHighSurrogate n then
      match r with
      | '\\' :: 'u' :: a :: b :: c :: d :: r => (unit? a b c d).bind fun m =>
        if isLowSurrogate m then
          consChar (Char.ofNat (0x10000 + (n - 0xD800) * 0x400 + (m - 0xDC00))) (readChars mode r)
        else none
      | _ => none
    else if isLowSurrogate n then none
    else consChar (Char.ofNat n) (readChars mode r)
  | '\\' :: c :: r => (simpleEscape? c).bind fun c => consChar c (readChars mode r)
  | c :: r => if c.toNat < 0x20 || c = '\\' then none else consChar c (readChars mode r)

theorem length_of_consChar {c : Char} {x : Option (List Char × List Char)} {s r : List Char}
    {n : Nat} (h : consChar c x = some (s, r)) (hx : ∀ {s r}, x = some (s, r) → r.length < n) :
    r.length < n := by
  cases x with
  | none => simp [consChar] at h
  | some p =>
    simp only [consChar, Option.map_some, Option.some.injEq, Prod.mk.injEq] at h
    exact h.2 ▸ hx rfl

theorem length_of_readChars {mode : Strictness} {cs s r : List Char}
    (h : readChars mode cs = some (s, r)) : r.length < cs.length := by
  fun_induction readChars mode cs generalizing s r with
  | case1 => simp at h
  | case2 => simp at h; simp [h.2]
  | case3 a b c d rest ih2 ih1 =>
    obtain ⟨n, -, h⟩ := Option.bind_eq_some_iff.mp h
    simp only [List.length_cons]
    split at h
    · have := length_of_consChar h ih2; omega
    split at h
    · split at h
      · obtain ⟨m, -, h⟩ := Option.bind_eq_some_iff.mp h
        split at h
        · have := length_of_consChar h ih1; simp only [List.length_cons]; omega
        · simp at h
      · simp at h
    split at h
    · simp at h
    · have := length_of_consChar h ih2; omega
  | case4 c rest _ ih =>
    obtain ⟨n, -, h⟩ := Option.bind_eq_some_iff.mp h
    have := length_of_consChar h ih
    simp only [List.length_cons]; omega
  | case5 => simp at h
  | case6 c rest _ _ _ _ ih =>
    have := length_of_consChar h ih
    simp only [List.length_cons]; omega

def readString (mode : Strictness) : Reader String
  | '"' :: r => match h : readChars mode r with
    | some (s, rest) =>
      some (String.ofList s, ⟨rest, by
        have := length_of_readChars h; simp only [List.length_cons]; omega⟩)
    | none => none
  | _ => none

theorem length_dropWhile_lt {p : Char → Bool} {cs : List Char} (h : cs.takeWhile p ≠ []) :
    (cs.dropWhile p).length < cs.length := by
  have e := congrArg List.length (List.takeWhile_append_dropWhile (p := p) (l := cs))
  have := List.length_pos_iff.mpr h
  simp only [List.length_append] at e
  omega

def readDigits : Reader (List Char) := fun cs =>
  if h : cs.takeWhile Char.isDigit ≠ [] then
    some (cs.takeWhile Char.isDigit, ⟨cs.dropWhile Char.isDigit, length_dropWhile_lt h⟩)
  else none

/-- The digits before the point: a zero stands alone. -/
def readWhole : Reader (List Char) := fun cs =>
  (readDigits cs).bind fun (ds, r) => if ds.head? = some '0' && ds != ['0'] then none else some (ds, r)

abbrev Tail (cs : List Char) := { r : List Char // r.length ≤ cs.length }

def readFraction (cs : List Char) : Option (Option (List Char) × Tail cs) :=
  match cs with
  | '.' :: r => (readDigits r).map fun (ds, ⟨t, h⟩) =>
    (some ds, ⟨t, by simp only [List.length_cons]; omega⟩)
  | cs => some (none, ⟨cs, Nat.le_refl _⟩)

/-- Whether a minus sign comes first, and what follows a sign. -/
def readSign (cs : List Char) : Bool × Tail cs :=
  match cs with
  | '-' :: r => (true, ⟨r, by simp⟩)
  | '+' :: r => (false, ⟨r, by simp⟩)
  | cs => (false, ⟨cs, Nat.le_refl _⟩)

def readExponent (cs : List Char) : Option (Option (Bool × List Char) × Tail cs) :=
  match cs with
  | c :: r =>
    if c = 'e' || c = 'E' then
      match readSign r with
      | (down, ⟨t, ht⟩) => (readDigits t).map fun (ds, ⟨u, hu⟩) =>
        (some (down, ds), ⟨u, by simp only [List.length_cons]; omega⟩)
    else some (none, ⟨c :: r, Nat.le_refl _⟩)
  | [] => some (none, ⟨[], Nat.le_refl _⟩)

def readMagnitude (negative : Bool) : Reader NumeralParts := fun cs =>
  (readWhole cs).bind fun (whole, ⟨r, hr⟩) =>
  (readFraction r).bind fun (fraction, ⟨t, ht⟩) =>
  (readExponent t).map fun (exponent, ⟨u, hu⟩) =>
    (⟨negative, whole, fraction, exponent⟩, ⟨u, by omega⟩)

def readNumeral : Reader NumeralParts
  | '-' :: r => (readMagnitude true r).map fun (p, ⟨t, ht⟩) =>
    (p, ⟨t, by simp only [List.length_cons]; omega⟩)
  | cs => readMagnitude false cs

def readNumber (mode : Strictness) : Reader Json := fun cs =>
  (readNumeral cs).bind fun (p, r) =>
    match p.value?, mode with
    | some n, _ => some (.num n, r)
    | none, .lenient => some (.null, r)
    | none, .strict => none

def readWord (word : List Char) (value : Json) : Reader Json := fun cs =>
  if h : (cs.drop word.length).length < cs.length ∧ word.isPrefixOf cs then
    some (value, ⟨cs.drop word.length, h.1⟩)
  else none

def afterSpaces (read : Reader α) : Reader α := fun cs =>
  (read (skipSpaces cs)).map fun (v, ⟨r, hr⟩) =>
    (v, ⟨r, Nat.lt_of_lt_of_le hr (length_skipSpaces_le cs)⟩)

def readMark (c : Char) : Reader Unit := afterSpaces fun
  | d :: r => if c = d then some ((), ⟨r, by simp⟩) else none
  | [] => none

/-- One or more things separated by commas, up to a closing mark. -/
def readSeries (close : Char) (read : Reader α) (cs : List Char) : Option (List α × Rest cs) :=
  match afterSpaces read cs with
  | none => none
  | some (v, ⟨r, hr⟩) =>
    match readMark close r with
    | some (_, ⟨t, ht⟩) => some ([v], ⟨t, by omega⟩)
    | none =>
      match readMark ',' r with
      | none => none
      | some (_, ⟨t, ht⟩) =>
        (readSeries close read t).map fun (vs, ⟨u, hu⟩) => (v :: vs, ⟨u, by omega⟩)
termination_by cs.length

def readEnclosed (close : Char) (read : Reader α) : Reader (List α) := fun cs =>
  match readMark close cs with
  | some (_, r) => some ([], r)
  | none => readSeries close read cs

def readMember (mode : Strictness) (read : String → Reader α) : Reader (String × α) := fun cs =>
  (readString mode cs).bind fun (name, ⟨r, hr⟩) =>
  (readMark ':' r).bind fun (_, ⟨t, ht⟩) =>
  (afterSpaces (read name) t).map fun (v, ⟨u, hu⟩) => ((name, v), ⟨u, by omega⟩)

def afterBracket (c : Char) (read : Reader α) : Reader α
  | d :: r =>
    if c = d then (read r).map fun (v, ⟨t, ht⟩) => (v, ⟨t, by simp only [List.length_cons]; omega⟩)
    else none
  | [] => none

def readItems (read : Reader α) : Reader (List α) := afterBracket '[' (readEnclosed ']' read)

def readMembers (mode : Strictness) (read : String → Reader α) : Reader (List (String × α)) :=
  afterBracket '\x7b' (readEnclosed '\x7d' (readMember mode read))

/-- A value with at most `depth` arrays and objects around one another. -/
def readValue (mode : Strictness) : (depth : Nat) → Reader Json
  | _, [] => none
  | depth, c :: r =>
    if c = '"' then (readString mode (c :: r)).map fun (s, t) => (.str s, t)
    else if c = 'n' then readWord ['n', 'u', 'l', 'l'] .null (c :: r)
    else if c = 't' then readWord ['t', 'r', 'u', 'e'] (.bool true) (c :: r)
    else if c = 'f' then readWord ['f', 'a', 'l', 's', 'e'] (.bool false) (c :: r)
    else match depth with
      | 0 => if c = '[' || c = '\x7b' then none else readNumber mode (c :: r)
      | depth + 1 =>
        if c = '[' then (readItems (readValue mode depth) (c :: r)).map fun (vs, t) => (.arr vs, t)
        else if c = '\x7b' then
          (readMembers mode (fun _ => readValue mode depth) (c :: r)).map fun (ms, t) => (object ms, t)
        else readNumber mode (c :: r)

def maxDepth : Nat := 127

def readWholeText (read : Reader α) (text : String) : Option α :=
  (afterSpaces read text.toList).bind fun (v, r) =>
    if skipSpaces r.val = [] then some v else none

def parse? (text : String) : Option Json := readWholeText (readValue .strict maxDepth) text

end TaskGrid.Json
