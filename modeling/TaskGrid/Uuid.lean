import TaskGrid.Text.Hex

/-!
Identifiers of 128 bits in their usual text, of the version that carries 122 free bits.
-/

namespace TaskGrid.Uuid

/-- The places of the dashes, counted in hexadecimal digits. -/
def dashed (ds : List Char) : List Char :=
  ds.take 8 ++ ['-'] ++ (ds.drop 8).take 4 ++ ['-'] ++ (ds.drop 12).take 4 ++ ['-'] ++
    (ds.drop 16).take 4 ++ ['-'] ++ ds.drop 20

def ofNat (n : Nat) : String :=
  let ds := (Hex.write 30 n).map fun b => Char.ofNat b.toNat
  String.ofList (dashed (ds.take 12 ++ ['4'] ++ (ds.drop 12).take 3 ++ ['8'] ++ ds.drop 15))

def isDigit (c : Char) : Bool := ('0' ≤ c && c ≤ '9') || ('a' ≤ c && c ≤ 'f')

def isUuid (s : String) : Bool :=
  let cs := s.toList
  let ds := cs.filter (· ≠ '-')
  cs == dashed ds && ds.length == 32 && ds.all isDigit && ds[12]? == some '4' &&
    (ds[16]?).any ('8' :: '9' :: 'a' :: 'b' :: []).contains

end TaskGrid.Uuid
