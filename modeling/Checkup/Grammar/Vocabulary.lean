import Checkup.Grammar.Rule

/-!
# The symbols of a grammar

Symbols are numbers.  Number `0` is the end of the text and `1` the word token; then follow the
other tokens that patterns describe in the order of their first use, the tokens that only the
scanner finds, and the nonterminals.
-/

namespace Checkup.Grammar

open Lexing

/-- How a symbol appears in the tree. -/
inductive Visibility where
  | named
  | anonymous
  | hidden
deriving BEq, Inhabited

/-- A token that a pattern describes. -/
structure LexicalToken where
  pattern : TokenPattern
  name : String
  visibility : Visibility
  /-- Whether the name only numbers it. -/
  auxiliary : Bool
  uses : Nat
deriving Inhabited

structure Vocabulary where
  names : Array String
  visibility : Array Visibility
  /-- Symbols below are tokens. -/
  tokenCount : Nat
  /-- The tokens with patterns, in order of first use. -/
  lexical : Array LexicalToken
  /-- The place of the word token among them. -/
  wordIndex : Nat
  /-- The symbols of the scanner's tokens, in its order. -/
  scanned : Array Nat
  /-- The nonterminals' rules. -/
  rules : Array (String × Rule)
  /-- The number of nonterminals with rules of their own; those behind them only repeat. -/
  plainRules : Nat
  /-- The symbols of names. -/
  byName : Array (String × Nat)
deriving Inhabited

namespace Vocabulary

def size (v : Vocabulary) : Nat := v.names.size

/-- The number of symbols that are found by patterns, the end included. -/
def lexicalEnd (v : Vocabulary) : Nat := v.lexical.size + 1

/-- The symbol of the token at a place in the order of first use. -/
def ofLexical (v : Vocabulary) (k : Nat) : Nat :=
  if k = v.wordIndex then 1 else if k < v.wordIndex then k + 2 else k + 1

/-- The place of a token in the order of first use. -/
def lexicalIndex (v : Vocabulary) (symbol : Nat) : Nat :=
  if symbol = 1 then v.wordIndex else if symbol < v.wordIndex + 2 then symbol - 2 else symbol - 1

def isToken (v : Vocabulary) (symbol : Nat) : Bool := symbol < v.tokenCount

/-- Whether a pattern describes the symbol. -/
def isLexical (v : Vocabulary) (symbol : Nat) : Bool := 0 < symbol && symbol < v.lexicalEnd

def isVisible (v : Vocabulary) (symbol : Nat) : Bool :=
  v.visibility.getD symbol .hidden != .hidden

def isNamed (v : Vocabulary) (symbol : Nat) : Bool :=
  v.visibility.getD symbol .hidden == .named

def ofName? (v : Vocabulary) (name : String) : Option Nat :=
  (v.byName.find? (·.1 == name)).map (·.2)

private def samePattern (a b : TokenPattern) : Bool :=
  match a.fixed, b.fixed with
  | some s, some t => s == t && a.immediate == b.immediate && a.precedence == b.precedence
  | none, none => a == b
  | _, _ => false

def ofPattern? (v : Vocabulary) (p : TokenPattern) : Option Nat :=
  (v.lexical.findIdx? fun t => samePattern t.pattern p).map v.ofLexical

/-- The symbol of a rule that is one token or one name. -/
def ofRule? (v : Vocabulary) : Rule → Option Nat
  | .token p => v.ofPattern? p
  | .ref name => v.ofName? name
  | _ => none

/-- Counts one use of a token in the rule `owner`. -/
private def countToken (owner : String) (ts : Array LexicalToken) (p : TokenPattern) :
    Array LexicalToken :=
  match ts.findIdx? fun t => samePattern t.pattern p with
  | some k => ts.modify k fun t => { t with uses := t.uses + 1 }
  | none =>
    ts.push <| match p.fixed with
      | some s => { pattern := p, name := s, visibility := .anonymous, auxiliary := false, uses := 1 }
      | none =>
        { pattern := p, name := owner ++ "_token", visibility := .hidden, auxiliary := true, uses := 1 }

mutual

/-- Counts the tokens of a rule. -/
private def countTokens (owner : String) (ts : Array LexicalToken) : Rule → Array LexicalToken
  | .blank | .ref _ => ts
  | .token p => countToken owner ts p
  | .many1 r | .marked _ r => countTokens owner ts r
  | .choice rs | .seq rs => countTokensIn owner ts rs

private def countTokensIn (owner : String) (ts : Array LexicalToken) :
    List Rule → Array LexicalToken
  | [] => ts
  | r :: rs => countTokensIn owner (countTokens owner ts r) rs

end

/-- The visibility of a node by its rule's name. -/
private def visibilityOf (g : Grammar) (name : String) : Visibility :=
  if name.startsWith "_" || g.supertypes.contains name then .hidden else .named

/-- Gives the name of a rule that is just one token, used nowhere else, to that token; other rules
stay nonterminals. -/
private def nameToken (g : Grammar) (acc : Array LexicalToken × Array (String × Rule))
    (entry : String × Rule) : Array LexicalToken × Array (String × Rule) :=
  let (ts, rules) := acc
  match entry.2 with
  | .token p =>
    match ts.findIdx? fun t => samePattern t.pattern p with
    | some k =>
      let t := ts.getD k default
      let visibility := visibilityOf g entry.1
      if t.uses = 1 && (t.auxiliary || visibility != .hidden) then
        (ts.set! k { t with name := entry.1, visibility, auxiliary := false }, rules)
      else (ts, rules.push entry)
    | none => (ts, rules.push entry)
  | _ => (ts, rules.push entry)

/-- The symbols of a grammar. -/
def ofGrammar (g : Grammar) : Vocabulary := Id.run do
  let counted := g.rules.foldl (fun ts (name, r) => countTokens name ts r) #[]
  let counted := g.scanned.foldl (fun ts s =>
    match s with
    | .literal text => countToken "" ts (.literal text)
    | .named _ => ts) counted
  let (lexical, rules) := g.rules.foldl (nameToken g) (counted, #[])
  let wordIndex := (lexical.findIdx? (·.name == g.word)).getD 0
  let base : Vocabulary :=
    { names := #[], visibility := #[], tokenCount := 0, lexical, wordIndex, scanned := #[],
      rules, plainRules := rules.size, byName := #[] }
  let mut names : Array String := .replicate (lexical.size + 1) "end"
  let mut visibility : Array Visibility := .replicate (lexical.size + 1) .hidden
  let mut byName : Array (String × Nat) := #[]
  for h : k in [0:lexical.size] do
    let t := lexical[k]
    names := names.set! (base.ofLexical k) t.name
    visibility := visibility.set! (base.ofLexical k) t.visibility
    if t.visibility == .named then byName := byName.push (t.name, base.ofLexical k)
  let mut scanned : Array Nat := #[]
  for s in g.scanned do
    match s with
    | .literal text =>
      scanned := scanned.push ((base.ofPattern? (.literal text)).getD 0)
    | .named name =>
      match byName.find? (·.1 == name) with
      | some (_, symbol) => scanned := scanned.push symbol
      | none =>
        scanned := scanned.push names.size
        byName := byName.push (name, names.size)
        visibility := visibility.push (visibilityOf g name)
        names := names.push name
  let tokenCount := names.size
  for (name, _) in rules do
    byName := byName.push (name, names.size)
    visibility := visibility.push (visibilityOf g name)
    names := names.push name
  return { base with names, visibility, tokenCount, scanned, byName }

/-- Adds a nonterminal that only repeats another rule's parts. -/
def addAuxiliary (v : Vocabulary) (name : String) (r : Rule) : Vocabulary :=
  { v with
    names := v.names.push name
    visibility := v.visibility.push .hidden
    rules := v.rules.push (name, r)
    byName := v.byName.push (name, v.names.size) }

end Vocabulary

end Checkup.Grammar
