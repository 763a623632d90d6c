import Checkup.Web.Url

/-!
# URIs

Requests are sent to URIs, and not all addresses that can be read are such in their normal form.
`Uri.isValid` reads an address of the web again by the stricter rules.
-/

namespace Checkup.Web.Uri

/-- The greatest length of a URI. -/
def maxLength : Nat := 65534

/-! ## Authorities -/

/-- Characters that mean nothing in an authority. -/
def isPlain (c : Char) : Bool :=
  c.isAlphanum ||
    ['!', '$', '&', '\'', '(', ')', '*', '+', ',', '-', '.', ';', '=', '_', '~'].contains c

/-- What counts of the beginning of an authority: the colons behind the last at sign or bracket,
whether there is an opening and a closing bracket, whether a percent sign stands behind the last at
sign or closing bracket, and whether an at sign comes last. -/
structure Seen where
  colons : Nat := 0
  opened : Bool := false
  closed : Bool := false
  percent : Bool := false
  atSign : Bool := false
deriving BEq, DecidableEq, Inhabited

namespace Seen

/-- Reads a character. -/
def next? (s : Seen) (c : Char) : Option Seen :=
  let s := { s with atSign := false }
  match c with
  | ':' => if 8 ≤ s.colons then none else some { s with colons := s.colons + 1 }
  | '[' => if s.percent || s.opened then none else some { s with opened := true }
  | ']' =>
    if !s.opened || s.closed then none
    else some { s with closed := true, colons := 0, percent := false }
  | '@' => some { s with colons := 0, percent := false, atSign := true }
  | '%' => some { s with percent := true }
  | c => if isPlain c then some s else none

/-- Reads a text. -/
def scan? (s : Seen) (cs : List Char) : Option Seen := cs.foldlM next? s

/-- Whether an authority may end here. -/
def canEnd (s : Seen) : Bool :=
  s.opened == s.closed && s.colons ≤ 1 && !s.atSign && !s.percent

end Seen

def isAuthority (cs : List Char) : Bool :=
  cs ≠ [] && (Seen.scan? {} cs).any Seen.canEnd

/-- Whether a character does not end an authority. -/
def isInAuthority (c : Char) : Bool := c ≠ '/' && c ≠ '?' && c ≠ '#'

/-! ## Whole URIs -/

def isPathChar (c : Char) : Bool := ' ' < c && !(['#', '<', '>', '?', '`'].contains c)

def isQueryChar (c : Char) : Bool := ' ' < c && !(['"', '#', '<', '>'].contains c)

/-- What stands behind the scheme of an address of the web. -/
def afterScheme? : List Char → Option (List Char)
  | 'h' :: 't' :: 't' :: 'p' :: ':' :: '/' :: '/' :: rest => some rest
  | 'h' :: 't' :: 't' :: 'p' :: 's' :: ':' :: '/' :: '/' :: rest => some rest
  | _ => none

/-- Whether an address of the web in its normal form is a URI. -/
def isValid (text : List Char) : Bool :=
  text.length ≤ maxLength &&
    match afterScheme? text with
    | none => false
    | some rest =>
      let authority := rest.takeWhile isInAuthority
      let (path, query, _) := Url.cutEnd (rest.drop authority.length)
      isAuthority authority && path.all isPathChar && (query.getD []).all isQueryChar

end Checkup.Web.Uri
