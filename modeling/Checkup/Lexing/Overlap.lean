import Checkup.Lexing.Nfa

/-!
# How tokens get in each other's way

For two tokens `i` and `j`, `Overlap` records in what ways the texts of `i` interfere with those
of `j` when both are looked for at the same place.  The relation decides which sets of tokens one
lexer may look for together.
-/

namespace Checkup.Lexing

/-- How a token interferes with another one. -/
structure Overlap where
  /-- It loses to longer texts of the other token of which its text is a beginning. -/
  beginning : Bool := false
  /-- It goes on where the other token is complete. -/
  continuation : Bool := false
  /-- It goes on there with a character that may also follow the other token. -/
  validContinuation : Bool := false
  /-- It matches separators. -/
  separators : Bool := false
  /-- It is preferred on some text that both match. -/
  sameText : Bool := false
  /-- It matches a text that the other one does not. -/
  otherText : Bool := false
deriving BEq, Inhabited

namespace Overlap

/-- The two may not be looked for together where the other one is expected. -/
def conflicts (o : Overlap) : Bool := o.validContinuation || o.separators || o.sameText

/-- The two match related texts at all. -/
def overlaps (o : Overlap) : Bool := o.separators || o.beginning || o.sameText || o.continuation

end Overlap

/-- The interference of every token with every other one. -/
structure OverlapTable where
  size : Nat
  entries : Array Overlap
deriving Inhabited

namespace OverlapTable

def get (t : OverlapTable) (i j : Nat) : Overlap := t.entries.getD (i * t.size + j) default

/-- Token `i` wins against `j` on a longer or shorter text and `j` does not match separators. -/
def shorterOrLonger (t : OverlapTable) (i j : Nat) : Bool :=
  ((t.get i j).validContinuation || (t.get i j).separators) && !(t.get j i).separators

end OverlapTable

namespace Nfa

/-- The classes set in a mask, in increasing order. -/
def classesIn (n : Nfa) (mask : Nat) : List Nat :=
  (List.range n.alphabet.size).filter mask.testBit

/-- The overlap of two tokens while it is found: of the first with the second, and back. -/
abbrev OverlapPair := Overlap × Overlap

private def OverlapPair.update (o : OverlapPair) (first : Bool) (f : Overlap → Overlap) :
    OverlapPair :=
  if first then (f o.1, o.2) else (o.1, f o.2)

/-- What the complete tokens of a position say. -/
private def overlapAtCompletions (n : Nfa) (i : Nat) (atSeparator : Bool)
    (o : OverlapPair) (completions : List (Nat × Int)) : OverlapPair × Option (Nat × Int) :=
  completions.foldl (fun (o, best) c =>
    let o := if atSeparator then OverlapPair.update o (c.1 == i) ({ · with separators := true })
      else o
    match best with
    | none => (o, some c)
    | some b =>
      if b.1 = c.1 then (o, best)
      else
        let (winner, best) := if n.prefers b c then (b.1, best) else (c.1, some c)
        (OverlapPair.update o (winner == i) ({ · with sameText := true }), best)) (o, none)

/-- What one move says when a token is complete. -/
private def overlapAtMove (n : Nfa) (following : Array Nat) (i j : Nat) (atSeparator : Bool)
    (o : OverlapPair) (completed : Nat × Int) (cls : Nat) (m : Move) : OverlapPair :=
  let tokens := n.tokensOf m.targets
  match tokens.getLast? with
  | none => o
  | some advanced =>
    if tokens.contains completed.1 then o
    else if n.prefersMove m completed atSeparator then
      let other := if advanced = i then j else i
      let valid := (following.getD other 0).testBit cls
      OverlapPair.update o (advanced == i) fun v =>
        { v with continuation := true, validContinuation := v.validContinuation || valid }
    else OverlapPair.update o (completed.1 == i) ({ · with beginning := true })

/-- Visits the positions that both tokens can be in, keeping those still to be visited and those
seen.  The fuel bounds the number of visits. -/
private def overlapSearch (n : Nfa) (following : Array Nat) (i j : Nat) :
    Nat → List (List Nat) → List (List Nat) → OverlapPair → OverlapPair
  | 0, _, _, o => o
  | _, [], _, o => o
  | fuel + 1, states :: queue, seen, o =>
    match n.tokensOf states with
    | [] => overlapSearch n following i j fuel queue seen o
    | [only] =>
      overlapSearch n following i j fuel queue seen
        (OverlapPair.update o (only == i) ({ · with otherText := true }))
    | _ =>
      let position := n.position states
      let atSeparator := n.readsSeparator position
      let (o, best) := n.overlapAtCompletions i atSeparator o (n.completions position)
      let (queue, seen, o) := (n.classesIn (n.readable position)).foldl
        (fun (queue, seen, o) cls =>
          match n.move? position cls with
          | none => (queue, seen, o)
          | some m =>
            let o := match best with
              | some completed => n.overlapAtMove following i j atSeparator o completed cls m
              | none => o
            if seen.contains m.targets then (queue, seen, o)
            else (m.targets :: queue, m.targets :: seen, o)) (queue, seen, o)
      overlapSearch n following i j fuel queue seen o

/-- The overlaps of all pairs of tokens.  `following` gives, for each token, the tokens that may
come directly after it, as a mask. -/
def overlapTable (n : Nfa) (following : Array Nat) : OverlapTable := Id.run do
  let size := n.patterns.size
  let starting := n.start.map fun s => n.readable (n.position [s])
  let followingChars := following.map fun tokens =>
    (List.range size).foldl (fun mask t =>
      if tokens.testBit t then mask ||| starting.getD t 0 else mask) 0
  let mut entries : Array Overlap := .replicate (size * size) default
  for i in [0:size] do
    for j in [0:i] do
      let (o, o') := n.overlapSearch followingChars i j 10000
        [[n.start.getD j 0, n.start.getD i 0]] [] default
      entries := (entries.set! (i * size + j) o).set! (j * size + i) o'
  return ⟨size, entries⟩

end Nfa

end Checkup.Lexing
