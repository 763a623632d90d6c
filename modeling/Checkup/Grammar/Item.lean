import Checkup.Grammar.Production
import Std.Data.HashMap

/-!
# Items

An item is a production with a dot: what has been read of it stands before the dot.  Items that
cannot be told apart by what is still to come, and by what their reduction will do, are one item:
`ItemTable.ofProductions` numbers these classes, in an order that the order of competing
reductions follows.  Sets of tokens are bit masks over symbols.
-/

namespace Checkup.Grammar

/-- The items of a grammar, as arrays by item number, with the closure of each nonterminal. -/
structure ItemTable where
  productions : Productions
  /-- The symbol behind the dot, `0` if the item is complete. -/
  next : Array Nat
  /-- The item with the dot one further. -/
  successor : Array Nat
  /-- The tokens that the symbol after the next one can begin with, `0` if there is none. -/
  after : Array Nat
  /-- The items that take the place of one before an inlined symbol. -/
  expansion : Array (List Nat)
  /-- The place of the nonterminal that the item belongs to. -/
  place : Array Nat
  production : Array Nat
  dot : Array Nat
  /-- The precedence and associativity of the step before the dot. -/
  precedence : Array (Option Int)
  assoc : Array (Option Assoc)
  /-- The item that starts the parse. -/
  start : Nat
  /-- By place, the items with the dot at the start. -/
  initial : Array (List Nat)
  /-- The tokens that each symbol can begin with. -/
  first : Array Nat
  /-- The tokens that each symbol can end with. -/
  last : Array Nat
  /-- By place, the nonterminals that an item set takes in before that one: place, tokens that can
  follow it, and whether all that follows the first one can. -/
  closure : Array (List (Nat × Nat × Bool))
deriving Inhabited

namespace ItemTable

/-! ## First and last tokens -/

/-- One round of adding to the sets of the nonterminals what their productions show. -/
private def growEnds (g : Productions) (ends : Production → Option Step) (sets : Array Nat) :
    Array Nat :=
  g.ofVariable.size.fold (fun place _ sets =>
    (g.ofVariable.getD place []).foldl (fun sets p =>
      match ends (g.get p) with
      | some s => sets.modify (g.symbolOf place) (· ||| sets.getD s.symbol 0)
      | none => sets) sets) sets

private def growEndsFully (g : Productions) (ends : Production → Option Step) :
    Nat → Array Nat → Array Nat
  | 0, sets => sets
  | fuel + 1, sets =>
    let grown := growEnds g ends sets
    if grown == sets then sets else growEndsFully g ends fuel grown

/-- The tokens at one end of the texts of each symbol. -/
private def endTokens (g : Productions) (ends : Production → Option Step) : Array Nat :=
  let v := g.vocabulary
  growEndsFully g ends (v.size + 1)
    ((Array.range v.size).map fun s => if v.isToken s then 1 <<< s else 0)

/-! ## Closures -/

/-- By place, the nonterminals that productions begin with, each with the tokens that can follow
it there, or `none` if it is all of the production. -/
private def leftCorners (g : Productions) (first : Array Nat) : Array (List (Nat × Option Nat)) :=
  g.ofVariable.map fun ps => (ps.filterMap fun p =>
    match (g.get p).steps with
    | s :: rest =>
      if g.vocabulary.isToken s.symbol then none
      else some (g.placeOf s.symbol, rest.head?.map fun t => first.getD t.symbol 0)
    | [] => none).eraseDups

/-- Spreads what can follow a nonterminal to those it can begin with.  The fuel bounds the number
of entries looked at. -/
private def spread (corners : Array (List (Nat × Option Nat))) :
    Nat → List (Nat × Nat × Bool) → Array (Option (Nat × Bool)) → Array (Option (Nat × Bool))
  | 0, _, info => info
  | _, [], info => info
  | fuel + 1, (place, tokens, all) :: rest, info =>
    let (oldTokens, oldAll) := (info.getD place none).getD (0, false)
    let grown := (oldTokens ||| tokens, oldAll || all)
    if (info.getD place none).isSome && grown == (oldTokens, oldAll) then
      spread corners fuel rest info
    else
      let more := (corners.getD place []).map fun (place', follow) =>
        match follow with
        | some mask => (place', mask, false)
        | none => (place', tokens, all)
      spread corners fuel (more ++ rest) (info.set! place (some grown))

private def closureOf (g : Productions) (corners : Array (List (Nat × Option Nat))) (place : Nat) :
    List (Nat × Nat × Bool) :=
  let info := spread corners 1000000 [(place, 0, true)] (.replicate g.ofVariable.size none)
  (List.range g.ofVariable.size).filterMap fun k =>
    if g.isInlined (g.symbolOf k) then none
    else (info.getD k none).map fun (tokens, all) => (k, tokens, all)

/-! ## Numbering -/

/-- A production of the nonterminal at a place, with the dot before step `dot`. -/
abbrev Position := Nat × Nat × Nat

/-- Whether reductions to a hidden symbol pass fields on: those of its steps and those that its
hidden steps pass on. -/
private def passesFields (g : Productions) : Array Bool :=
  let grow := fun (passes : Array Bool) => (Array.range passes.size).map fun place =>
    passes.getD place false || (g.ofVariable.getD place []).any fun p =>
      (g.get p).steps.any fun s => s.field.isSome ||
        (!g.vocabulary.isToken s.symbol && !g.vocabulary.isVisible s.symbol &&
          s.renamed.isNone && passes.getD (g.placeOf s.symbol) false)
  (List.range 16).foldl (fun passes _ => grow passes) (.replicate g.ofVariable.size false)

/-- Whether the step is a hidden nonterminal that passes fields on. -/
private def isPassing (g : Productions) (passes : Array Bool) (s : Step) : Bool :=
  !g.vocabulary.isToken s.symbol && !g.vocabulary.isVisible s.symbol &&
    passes.getD (g.placeOf s.symbol) false

private def codeOf [BEq α] (all : Array α) : Option α → Nat
  | none => 0
  | some a => (all.idxOf? a).getD 0 + 1

private def precedenceCode : Option Int → Nat
  | none => 0
  | some n => (n + 1000).toNat

private def assocCode : Option Assoc → Nat
  | none => 0
  | some .left => 1
  | some .right => 2

/-- All that distinguishes an item, as a list of numbers that are compared in order. -/
private def keyOf (g : Productions) (passes : Array Bool) (aliases : Array Alias)
    (fields : Array String) (position : Position) : List Nat :=
  let (place, p, dot) := position
  let production := g.get p
  let before := production.steps.take dot
  let inherits := before.any (isPassing g passes)
  let last := before.getLast?
  [dot, place, (production.dynamicPrecedence + 1000).toNat, production.steps.length,
    precedenceCode (last.bind (·.precedence)), assocCode (last.bind (·.assoc)),
    if inherits then 1 else 0] ++
  (before.flatMap fun s =>
    [codeOf aliases s.renamed, codeOf fields s.field] ++ if inherits then [s.symbol] else []) ++
  ((production.steps.drop dot).flatMap fun s =>
    [s.symbol, precedenceCode s.precedence, assocCode s.assoc, codeOf aliases s.renamed,
      codeOf fields s.field])

private def lexLe : List Nat → List Nat → Bool
  | [], _ => true
  | _ :: _, [] => false
  | a :: as, b :: bs => if a < b then true else if b < a then false else lexLe as bs

/-- Collects a position and all that follow from it.  The fuel bounds their number. -/
private def collect (g : Productions) :
    Nat → List Position → Std.HashMap Position Unit → Array Position → Array Position
  | 0, _, _, out => out
  | _, [], _, out => out
  | fuel + 1, position :: rest, seen, out =>
    if seen.contains position then collect g fuel rest seen out
    else
      let (place, p, dot) := position
      let more := match g.inlined? p dot with
        | some qs => qs.map fun q => (place, q, dot)
        | none => if dot < (g.get p).steps.length then [(place, p, dot + 1)] else []
      collect g fuel (more ++ rest) (seen.insert position ()) (out.push position)

/-- The items of a grammar. -/
def ofProductions (grammar : Productions) : ItemTable := Id.run do
  -- One more nonterminal, with the start symbol as its only production, begins the parse.
  let startProduction := grammar.all.size
  let startPlace := grammar.ofVariable.size
  let g : Productions := { grammar with
    all := grammar.all.push { steps := [{ symbol := grammar.vocabulary.tokenCount }] }
    replacements := grammar.replacements.push none }
  let first := endTokens g (·.steps.head?)
  let last := endTokens g (·.steps.getLast?)
  let corners := leftCorners g first
  let passes := passesFields g
  let mut aliases : Array Alias := #[]
  let mut fields : Array String := #[]
  for p in g.all do
    for s in p.steps do
      if let some a := s.renamed then
        if !aliases.contains a then aliases := aliases.push a
      if let some f := s.field then
        if !fields.contains f then fields := fields.push f
  let initialPositions : Array (List Position) :=
    (Array.range g.ofVariable.size).map fun place =>
      if g.isInlined (g.symbolOf place) then []
      else (g.ofVariable.getD place []).flatMap fun p =>
        ((g.inlined? p 0).getD [p]).map fun q => (place, q, 0)
  let positions := collect g 1000000
    ((startPlace, startProduction, 0) :: initialPositions.toList.flatten) {} #[]
  let keyed := positions.map fun position => (keyOf g passes aliases fields position, position)
  let sorted := keyed.toList.mergeSort fun a b => lexLe a.1 b.1
  -- Equal keys are neighbours now and get one number.
  let mut numbers : Std.HashMap Position Nat := {}
  let mut representatives : Array Position := #[]
  let mut lastKey : List Nat := []
  for (key, position) in sorted do
    if representatives.isEmpty || key != lastKey then
      representatives := representatives.push position
      lastKey := key
    numbers := numbers.insert position (representatives.size - 1)
  let number := fun position => numbers.getD position 0
  let stepAt := fun (position : Position) (k : Nat) => (g.get position.2.1).steps[k]?
  let stepBefore := fun (position : Position) =>
    if position.2.2 = 0 then none else stepAt position (position.2.2 - 1)
  return {
    productions := g
    first, last
    next := representatives.map fun position =>
      match stepAt position position.2.2 with
      | some s => s.symbol
      | none => 0
    successor := representatives.map fun position =>
      let (place, p, dot) := position
      if (g.inlined? p dot).isSome then 0 else number (place, p, dot + 1)
    after := representatives.map fun position =>
      match stepAt position (position.2.2 + 1) with
      | some s => first.getD s.symbol 0
      | none => 0
    expansion := representatives.map fun (place, p, dot) =>
      match g.inlined? p dot with
      | some qs => qs.map fun q => number (place, q, dot)
      | none => []
    place := representatives.map (·.1)
    production := representatives.map (·.2.1)
    dot := representatives.map (·.2.2)
    precedence := representatives.map fun position => (stepBefore position).bind (·.precedence)
    assoc := representatives.map fun position => (stepBefore position).bind (·.assoc)
    start := number (startPlace, startProduction, 0)
    initial := initialPositions.map fun ps => (ps.map number).eraseDups
    closure := (Array.range g.ofVariable.size).map (closureOf g corners) }

/-- Tokens that can come directly after each token, as masks by symbol. -/
def following (t : ItemTable) (extras : List Nat) : Array Nat := Id.run do
  let v := t.productions.vocabulary
  let lexicalMask := ((1 <<< v.lexicalEnd) - 1) ^^^ 1
  let mut out : Array Nat := .replicate v.tokenCount 0
  for p in t.productions.all do
    for (a, b) in p.steps.zip (p.steps.drop 1) do
      let left := t.last.getD a.symbol 0
      let right := (t.first.getD b.symbol 0) &&& lexicalMask
      for s in [1:v.lexicalEnd] do
        if left.testBit s then out := out.modify s (· ||| right)
  for e in extras do
    out := out.map (· ||| 1 <<< e)
    out := out.set! e lexicalMask
  return out

end ItemTable

end Checkup.Grammar
