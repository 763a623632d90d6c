import Checkup.Lexing.Pattern

/-!
# Grammar rules

`Rule` is the language in which grammars are written: sequences, alternatives, repetition, and
marks for precedence, fields and aliases.  `Grammar` names the rules and says which of them are
inlined, which tokens may occur anywhere, and which are found by a scanner of the language's own.
-/

namespace Checkup.Grammar

open Lexing

inductive Assoc where
  | left
  | right
deriving BEq, Inhabited

/-- The name that a node is shown under in place of its own. -/
structure Alias where
  name : String
  named : Bool
deriving BEq, Inhabited

/-- What a rule says about the nodes it makes, besides their order. -/
structure Mark where
  precedence : Option Int := none
  assoc : Option Assoc := none
  /-- Decides between parses of the same text: the higher sum wins. -/
  dynamicPrecedence : Int := 0
  renamed : Option Alias := none
  field : Option String := none
deriving BEq, Inhabited

inductive Rule where
  | blank
  | token (pattern : TokenPattern)
  | ref (name : String)
  | choice (alternatives : List Rule)
  | seq (parts : List Rule)
  | many1 (body : Rule)
  | marked (mark : Mark) (body : Rule)
deriving BEq, Inhabited

namespace Rule

/-- The token with one fixed text. -/
def literal (s : String) : Rule := .token (.literal s)

instance : Coe String Rule := ⟨literal⟩

/-- Alternatives, with nested ones joined and repeated ones dropped. -/
def oneOf (rs : List Rule) : Rule :=
  let flat := rs.flatMap fun
    | .choice inner => inner
    | r => [r]
  .choice (flat.foldl (fun out r => if out.elem r then out else out ++ [r]) [])

def opt (r : Rule) : Rule := oneOf [r, .blank]

/-- Any number of times. -/
def many (r : Rule) : Rule := oneOf [.many1 r, .blank]

/-- One or more, with a separator between neighbours. -/
def sepBy1 (r separator : Rule) : Rule := .seq [r, many (.seq [separator, r])]

def commaSep1 (r : Rule) : Rule := sepBy1 r ","

/-- Changes the mark of a rule. -/
def mark (f : Mark → Mark) : Rule → Rule
  | .marked m r => .marked (f m) r
  | r => .marked (f {}) r

def prec (n : Int) : Rule → Rule := mark ({ · with precedence := some n })

def precLeft (n : Int) : Rule → Rule :=
  mark ({ · with precedence := some n, assoc := some .left })

def precRight (n : Int) : Rule → Rule :=
  mark ({ · with precedence := some n, assoc := some .right })

def precDynamic (n : Int) : Rule → Rule := mark ({ · with dynamicPrecedence := n })

def field (name : String) : Rule → Rule := mark ({ · with field := some name })

/-- Shown as a node of another kind. -/
def aliased (name : String) : Rule → Rule := mark ({ · with renamed := some ⟨name, true⟩ })

/-- Shown as an unnamed token. -/
def aliasedToken (text : String) : Rule → Rule := mark ({ · with renamed := some ⟨text, false⟩ })

end Rule

/-- A token that the language's own scanner may find. -/
inductive ScannedToken where
  | named (name : String)
  | literal (text : String)
deriving BEq, Inhabited

end Grammar

/-- A grammar: named rules, the first of them the start rule. -/
structure Grammar where
  rules : List (String × Grammar.Rule)
  /-- The token that covers all keywords. -/
  word : String
  /-- The tokens that may occur between any two others. -/
  extras : List String
  /-- What may come between tokens without being one. -/
  separators : Lexing.Regex
  scanned : List Grammar.ScannedToken
  /-- Rules that stand for a family of kinds and make no nodes. -/
  supertypes : List String
  /-- Rules that are replaced by their bodies. -/
  inlined : List String
deriving Inhabited

end Checkup
