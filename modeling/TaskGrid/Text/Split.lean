/-!
Texts cut at a character.
-/

namespace TaskGrid.Text

/-- The pieces between the occurrences of a separator, of which there is at least one. -/
def splitChars (sep : Char) : List Char → List (List Char)
  | [] => [[]]
  | c :: r =>
    if c = sep then [] :: splitChars sep r
    else match splitChars sep r with
      | [] => [[c]]
      | piece :: pieces => (c :: piece) :: pieces

def split (sep : Char) (s : String) : List String := (splitChars sep s.toList).map String.ofList

/-- A text before and after the first occurrence of a separator. -/
def splitOnce? (sep : Char) (s : String) : Option (String × String) :=
  match splitChars sep s.toList with
  | [] | [_] => none
  | piece :: rest => some (String.ofList piece, String.ofList ([sep].intercalate rest))

theorem splitChars_ne_nil (sep : Char) (cs : List Char) : splitChars sep cs ≠ [] := by
  cases cs with
  | nil => simp [splitChars]
  | cons c r =>
    simp only [splitChars]
    split
    · simp
    · split <;> simp

end TaskGrid.Text
