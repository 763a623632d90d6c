import Checkup.Lexing.Nfa

/-!
# Lexers

A `Dfa` holds the lexers of a language as one deterministic automaton with several start states.
`Dfa.run` reads the longest token from a place in the text: `Found` tells which token it is, where
it starts (behind the separators) and where it ends.
-/

namespace Checkup.Lexing

/-- What a lexer found. -/
structure Found where
  /-- The token, `none` for the end of the text. -/
  token : Option Nat
  start : Nat
  stop : Nat
deriving Inhabited

/-- Where a run of a lexer ended: the token if there is one, else where the token that failed
began, and the place of the character that it could not read. -/
structure LexResult where
  found : Option Found
  tokenStart : Nat
  place : Nat
deriving Inhabited

structure Dfa where
  alphabet : Alphabet
  /-- `next[s * alphabet.size + c]` is `0` for no move, else `2 * t + 1` or `2 * t + 2` for a move
  to `t`, the latter as a separator. -/
  next : Array Nat
  /-- `1 +` the token that is complete in a state, `0` if none is. -/
  accept : Array Nat
  /-- Whether the end of the text is accepted in a state. -/
  acceptsEnd : Array Bool
deriving Inhabited

namespace Dfa

/-- An automaton under construction: `keys` are the positions of the states found so far, with
whether the end of the text is accepted there. -/
structure Builder where
  dfa : Dfa
  keys : Array (List Nat × Bool)
deriving Inhabited

namespace Builder

def empty (n : Nfa) : Builder :=
  { dfa := { alphabet := n.alphabet, next := #[], accept := #[], acceptsEnd := #[] }, keys := #[] }

private def addState (b : Builder) (n : Nfa) (states : List Nat) (acceptsEnd : Bool) :
    Builder × Nat :=
  let key := (n.position states, acceptsEnd)
  match b.keys.idxOf? key with
  | some k => (b, k)
  | none => ({ b with keys := b.keys.push key }, b.keys.size)

/-- The move of a state on a class that survives the choice between going on and stopping.  The
null character is read only where some other character of the same effect is excluded: a move
that it shares with the last code point is not open to it. -/
private def chosenMove? (n : Nfa) (position : List Nat) (completed : Option (Nat × Int))
    (atSeparator : Bool) (cls : Nat) : Option Move :=
  match n.move? position cls with
  | none => none
  | some m =>
    if cls = n.alphabet.classOf 0 && n.move? position (n.alphabet.classOf CharSet.lastCodePoint)
        == some m then none
    else
      match completed with
      | some c => if n.prefersMove m c atSeparator then some m else none
      | none => some m

/-- Fills in the moves of state `k`. -/
private def fill (b : Builder) (n : Nfa) (k : Nat) : Builder := Id.run do
  let mut b := b
  let (position, acceptsEnd) := b.keys.getD k default
  let completed := n.completion? position
  let atSeparator := n.readsSeparator position
  let mut next := b.dfa.next
  for cls in [0:n.alphabet.size] do
    match chosenMove? n position completed atSeparator cls with
    | none => next := next.push 0
    | some m =>
      let (b', t) := b.addState n m.targets (acceptsEnd && m.separator)
      b := b'
      next := next.push (2 * t + if m.separator then 2 else 1)
  return { b with dfa := { b.dfa with
    next
    accept := b.dfa.accept.push (match completed with | some c => c.1 + 1 | none => 0)
    acceptsEnd := b.dfa.acceptsEnd.push acceptsEnd } }

/-- Fills in the states that have no moves yet. -/
private def fillAll (n : Nfa) : Nat → Builder → Builder
  | 0, b => b
  | fuel + 1, b =>
    let k := b.dfa.accept.size
    if k < b.keys.size then fillAll n fuel (b.fill n k) else b

/-- Adds a lexer for some tokens; the number is its start state. -/
def addLexer (b : Builder) (n : Nfa) (tokens : List Nat) (acceptsEnd : Bool) : Builder × Nat :=
  let (b, k) := b.addState n (tokens.map fun t => n.start.getD t 0) acceptsEnd
  (b.fillAll n 100000, k)

end Builder

/-- Reads on from state `s` at `place`, having skipped separators up to `start`. -/
private def runFrom (d : Dfa) (text : Array Char) (s : Nat) (place start : Nat)
    (found : Option Found) : Nat → LexResult
  | 0 => ⟨found, start, place⟩
  | fuel + 1 =>
    let found := match d.accept.getD s 0 with
      | 0 => found
      | t + 1 => some ⟨some t, start, place⟩
    if place = text.size && d.acceptsEnd.getD s false then
      ⟨some ⟨none, start, place⟩, start, place⟩
    else
      -- At the end of the text a null character can be read again and again.
      let c := text.getD place '\x00'
      match d.next.getD (s * d.alphabet.size + d.alphabet.classOf c.toNat) 0 with
      | 0 => ⟨found, start, place⟩
      | code + 1 =>
        let place := min (place + 1) text.size
        runFrom d text (code / 2) place (if code % 2 = 1 then place else start) found fuel

/-- Runs the lexer with start state `s` at `place`. -/
def run (d : Dfa) (text : Array Char) (s place : Nat) : LexResult :=
  runFrom d text s place place none (text.size - place + 8)

end Dfa

end Checkup.Lexing
