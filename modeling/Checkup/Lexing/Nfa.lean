import Checkup.Lexing.Pattern

/-!
# Automata for token patterns

`Nfa.ofPatterns` joins the patterns of all tokens, each behind the separators that may precede
it, into one automaton.  A position of the automaton is a sorted set of its states.  On a
class of characters a position has at most one move (`Nfa.move?`); `Nfa.completion?` is the
token that wins among those that are complete there.
-/

namespace Checkup.Lexing

/-- A state of the automaton: `accept` completes the token, `split` goes on in two ways, `read`
takes one character of the classes in the mask. -/
inductive NfaState where
  | accept (precedence : Int)
  | split (left right : Nat)
  | read (mask : Nat) (next : Nat) (separator : Bool) (precedence : Int)
deriving Inhabited

structure Nfa where
  alphabet : Alphabet
  patterns : Array TokenPattern
  states : Array NfaState
  /-- The token that a state belongs to. -/
  owner : Array Nat
  /-- The state in which the recognition of a token starts. -/
  start : Array Nat
deriving Inhabited

/-- What one character does at a position: where it leads, whether every way reads it as a
separator, and the highest precedence of these ways. -/
structure Move where
  targets : List Nat
  separator : Bool
  precedence : Int
deriving BEq, Inhabited

namespace Nfa

private def push (n : Nfa) (token : Nat) (s : NfaState) : Nfa × Nat :=
  ({ n with states := n.states.push s, owner := n.owner.push token }, n.states.size)

/-- Adds states that read `r` and go on at `next`; returns the first of them. -/
private def addRegex (token : Nat) (separator : Bool) (precedence : Int) :
    Regex → Nat → Nfa → Nfa × Nat
  | .empty, next, n => (n, next)
  | .oneOf s, next, n =>
    n.push token (.read (n.alphabet.maskOf s) next separator precedence)
  | .cat a b, next, n =>
    let (n, middle) := addRegex token separator precedence b next n
    addRegex token separator precedence a middle n
  | .alt a b, next, n =>
    let (n, left) := addRegex token separator precedence a next n
    let (n, right) := addRegex token separator precedence b next n
    n.push token (.split left right)
  | .plus a, next, n =>
    let (n, again) := n.push token (.split next next)
    let (n, first) := addRegex token separator precedence a again n
    ({ n with states := n.states.set! again (.split first next) }, first)

private def addPattern (separators : Regex) (n : Nfa) (p : TokenPattern) : Nfa :=
  let token := n.start.size
  let (n, done) := n.push token (.accept p.precedence)
  let (n, first) := addRegex token false p.precedence p.regex done n
  let (n, first) :=
    if p.immediate then (n, first) else addRegex token true 0 (.star separators) first n
  { n with start := n.start.push first }

/-- The automaton of all patterns, in their order. -/
def ofPatterns (separators : Regex) (patterns : Array TokenPattern) : Nfa :=
  let sets := patterns.toList.flatMap (·.regex.charSets) ++ separators.charSets
  let alphabet := Alphabet.ofSets (sets.foldl (fun out s =>
    if out.contains s then out else out.push s) #[])
  patterns.foldl (addPattern separators)
    { alphabet, patterns, states := #[], owner := #[], start := #[] }

private def insertSorted (k : Nat) : List Nat → List Nat
  | [] => [k]
  | x :: xs => if k < x then k :: x :: xs else if k = x then x :: xs else x :: insertSorted k xs

/-- Adds a state to a sorted set, going on through splits.  The fuel bounds the depth of splits
by the number of states. -/
private def close (n : Nfa) : Nat → List Nat → Nat → List Nat
  | 0, out, _ => out
  | fuel + 1, out, s =>
    match n.states.getD s default with
    | .split l r => n.close fuel (n.close fuel out l) r
    | _ => insertSorted s out

/-- The position that a set of states stands for. -/
def position (n : Nfa) (states : List Nat) : List Nat :=
  states.foldl (n.close 64) []

/-- The move of a position on a class of characters, if it has one. -/
def move? (n : Nfa) (position : List Nat) (cls : Nat) : Option Move :=
  position.foldl (fun found s =>
    match n.states.getD s default with
    | .read mask next separator precedence =>
      if mask.testBit cls then
        match found with
        | none => some ⟨[next], separator, precedence⟩
        | some m => some ⟨insertSorted next m.targets, m.separator && separator,
            max m.precedence precedence⟩
      else found
    | _ => found) none

/-- The classes on which a position has a move, as a mask. -/
def readable (n : Nfa) (position : List Nat) : Nat :=
  position.foldl (fun mask s =>
    match n.states.getD s default with
    | .read m .. => mask ||| m
    | _ => mask) 0

/-- Whether a separator can be read at a position. -/
def readsSeparator (n : Nfa) (position : List Nat) : Bool :=
  position.any fun s =>
    match n.states.getD s default with
    | .read _ _ separator _ => separator
    | _ => false

/-- The tokens that states belong to, in increasing order. -/
def tokensOf (n : Nfa) (states : List Nat) : List Nat :=
  (states.map fun s => n.owner.getD s 0).eraseReps

/-- The tokens that are complete at a position, with their precedences. -/
def completions (n : Nfa) (position : List Nat) : List (Nat × Int) :=
  position.filterMap fun s =>
    match n.states.getD s default with
    | .accept precedence => some (n.owner.getD s 0, precedence)
    | _ => none

/-- Whether the token `a` is chosen over `b` when both match the same text: by precedence, by
specificity, and then the one that was declared first. -/
def prefers (n : Nfa) (a b : Nat × Int) : Bool :=
  if a.2 ≠ b.2 then b.2 < a.2
  else
    let sa := (n.patterns.getD a.1 default).specificity
    let sb := (n.patterns.getD b.1 default).specificity
    if sa ≠ sb then sb < sa else a.1 < b.1

/-- The token that wins at a position. -/
def completion? (n : Nfa) (position : List Nat) : Option (Nat × Int) :=
  (n.completions position).foldl (fun best c =>
    match best with
    | some b => if n.prefers b c then best else some c
    | none => some c) none

/-- Whether reading on is better than stopping with a complete token. -/
def prefersMove (n : Nfa) (m : Move) (completed : Nat × Int) (atSeparator : Bool) : Bool :=
  if m.precedence < completed.2 then false
  else if m.precedence = completed.2 then
    !m.separator && (!atSeparator || (n.tokensOf m.targets).contains completed.1)
  else true

end Nfa

end Checkup.Lexing
