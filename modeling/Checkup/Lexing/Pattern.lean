import Checkup.Text.CharSet

/-!
# Lexical patterns

`Regex` describes the texts of a token, `TokenPattern` adds how a token competes with others:
an explicit precedence, and whether it must follow the previous token immediately.
-/

namespace Checkup.Lexing

/-- A regular expression over characters. -/
inductive Regex where
  | empty
  | oneOf (chars : CharSet)
  | cat (first second : Regex)
  | alt (first second : Regex)
  | plus (body : Regex)
deriving BEq, Inhabited

namespace Regex

def opt (r : Regex) : Regex := .alt r .empty

def star (r : Regex) : Regex := opt (.plus r)

/-- One after the other. -/
def seq (rs : List Regex) : Regex := rs.foldr .cat .empty

/-- Any one of them. -/
def choice : List Regex → Regex
  | [] => .empty
  | [r] => r
  | r :: rs => .alt r (choice rs)

/-- Exactly `n` times. -/
def times (n : Nat) (r : Regex) : Regex := seq (List.replicate n r)

def char (c : Char) : Regex := .oneOf (.between c c)

/-- One of the characters of `s`. -/
def anyOf (s : String) : Regex := .oneOf (.ofChars s)

/-- Any one character that is not in the set. -/
def noneOf (s : CharSet) : Regex := .oneOf s.complement

/-- Exactly this text. -/
def text (s : String) : Regex := seq (s.toList.map char)

/-- The character sets that occur in the expression. -/
def charSets : Regex → List CharSet
  | .empty => []
  | .oneOf s => [s]
  | .cat a b | .alt a b => a.charSets ++ b.charSets
  | .plus a => a.charSets

end Regex

/-- A lexical pattern together with what decides between it and others that match. -/
structure TokenPattern where
  regex : Regex
  /-- The text, if the pattern is one fixed text. -/
  fixed : Option String := none
  /-- The explicit precedence. -/
  precedence : Int := 0
  /-- Whether no separator may come before the token. -/
  immediate : Bool := false
deriving BEq, Inhabited

namespace TokenPattern

def literal (s : String) : TokenPattern := { regex := .text s, fixed := some s }

/-- How specific a pattern is: a fixed text comes before any other pattern of equal precedence,
an immediate one before one that may follow separators. -/
def specificity (p : TokenPattern) : Nat :=
  (if p.fixed.isSome then 2 else 0) + (if p.immediate then 1 else 0)

end TokenPattern

end Checkup.Lexing
