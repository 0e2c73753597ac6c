import TaskGrid.Client.Error
import TaskGrid.Text.Blank
import TaskGrid.Text.Quoted
import TaskGrid.Text.Utf8

/-!
The addresses of control planes: which texts are URIs that a channel can be made for.
-/

namespace TaskGrid

namespace Uri

def isSchemeChar (c : Char) : Bool := c.isAlphanum || "+-.~".toList.contains c

def isAuthorityChar (c : Char) : Bool := c.isAlphanum || "!$&'()*+,-.;=_~".toList.contains c

def isPathChar (c : Char) : Bool :=
  let n := c.toNat
  n == 0x21 || n == 0x22 || (0x24 ≤ n && n ≤ 0x3B) || n == 0x3D || (0x40 ≤ n && n ≤ 0x5F) || n ≥ 0x61

def isQueryChar (c : Char) : Bool :=
  let n := c.toNat
  n == 0x21 || (0x24 ≤ n && n ≤ 0x3B) || n == 0x3D || n ≥ 0x3F

/-- What is known of an authority while it is read. Colons are counted from the last sign that ends a user or an
address in brackets, and a percent sign may still turn out to belong to a user. -/
structure Authority where
  colons : Nat := 0
  opened : Bool := false
  closed : Bool := false
  percent : Bool := false
  atSign : Bool := false
  deriving DecidableEq, Repr

namespace Authority

def maxColons : Nat := 8

def read (a : Authority) (c : Char) : Option Authority :=
  let a := { a with atSign := false }
  match c with
  | ':' => if a.colons < maxColons then some { a with colons := a.colons + 1 } else none
  | '[' => if a.percent || a.opened then none else some { a with opened := true }
  | ']' =>
    if a.opened && !a.closed then some { a with closed := true, colons := 0, percent := false }
    else none
  | '@' => some { a with colons := 0, percent := false, atSign := true }
  | '%' => some { a with percent := true }
  | c => if isAuthorityChar c then some a else none

def isComplete (a : Authority) : Bool :=
  a.opened == a.closed && a.colons ≤ 1 && !a.atSign && !a.percent

end Authority

def endsAuthority (c : Char) : Bool := c == '/' || c == '?' || c == '#'

def isAuthority (cs : List Char) : Bool :=
  match cs.foldlM Authority.read {} with
  | some a => !cs.isEmpty && a.isComplete
  | none => false

/-- Whether characters are a query, up to a fragment, which may be anything. -/
def isQuery (cs : List Char) : Bool := (cs.takeWhile (· != '#')).all isQueryChar

def isPath : List Char → Bool
  | [] => true
  | '?' :: r => isQuery r
  | '#' :: _ => true
  | c :: r => isPathChar c && isPath r

def afterScheme? (cs : List Char) : Option (List Char) :=
  let scheme := cs.takeWhile isSchemeChar
  if scheme.isEmpty || scheme.length > 64 then none
  else match cs.drop scheme.length with
    | ':' :: '/' :: '/' :: rest => some rest
    | _ => none

def maxSize : Nat := 65534

/-- Whether a text that holds the end of a scheme somewhere is a URI. -/
def isValid (s : String) : Bool :=
  if (Utf8.encode s).length > maxSize then false
  else match s.toList with
    | '/' :: _ => isPath s.toList
    | cs => match afterScheme? cs with
      | none => false
      | some rest =>
        let authority := rest.takeWhile (!endsAuthority ·)
        isAuthority authority && isPath (rest.drop authority.length)

end Uri

namespace Endpoint

def hasScheme : List Char → Bool
  | ':' :: '/' :: '/' :: _ => true
  | _ :: r => hasScheme r
  | [] => false

/-- An address without white space around it; it is one of HTTP if it has no scheme. -/
def normalize (s : String) : String :=
  let s := Text.trim s
  if hasScheme s.toList then s else "http://" ++ s

def check (s : String) : Except ClientError String :=
  let s := normalize s
  if Uri.isValid s then .ok s
  else .error (.invalidSettings ("invalid endpoint " ++ Text.quote s ++ ": invalid URI"))

end Endpoint
end TaskGrid
