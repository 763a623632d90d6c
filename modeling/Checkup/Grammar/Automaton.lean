import Checkup.Grammar.Item

/-!
# The automaton of item sets

`Automaton.ofItems` builds the canonical automaton: its states are item sets with the tokens that
may follow each item, state `0` is the empty set, for recovery from errors, and state `1` the start.
In each state every token has the reductions that are possible before it, and at most one shift.
Precedence and associativity remove what they rule out; what remains is tried side by side.
-/

namespace Checkup.Grammar

/-- What a production says about the nodes of its symbols: aliases and fields by step. -/
structure Shape where
  aliases : List (Option Alias) := []
  /-- Field name, step, and whether the field is passed on by a hidden node. -/
  fields : List (String × Nat × Bool) := []
deriving BEq, Inhabited

/-- What can be done in a state, besides a shift. -/
inductive Reduction where
  | accept
  | reduce (symbol count : Nat) (dynamicPrecedence : Int) (shape : Nat)
deriving BEq, Hashable, Inhabited

/-- An item set before closure: items in increasing order, each with the tokens that may follow. -/
structure Kernel where
  entries : Array (Nat × Nat)
deriving BEq, Inhabited

instance : Hashable Kernel where
  hash k := k.entries.foldl (fun h (item, tokens) =>
    mixHash h (mixHash (hash item) (mixHash (hash tokens) (hash (tokens >>> 64))))) 7

/-- How a token or nonterminal is shifted. -/
inductive Shift where
  | none
  /-- The token is put on the stack without a change of state. -/
  | extra
  /-- To a state; a `repetition` is only for nodes that repeat and is not tried for tokens. -/
  | goto (state : Nat) (repetition : Bool)
deriving BEq, Inhabited

structure State where
  core : Nat
  /-- The tokens with something to do. -/
  tokens : Nat := 0
  /-- By token, the number of its list of reductions. -/
  reductions : Array Nat := #[]
  /-- By token. -/
  shifts : Array Shift := #[]
  /-- By nonterminal, the symbol and the state it leads to, in increasing order. -/
  gotos : Array (Nat × Nat) := #[]
deriving Inhabited

structure Automaton where
  items : ItemTable
  states : Array State
  /-- The lists of reductions, the first of them empty. -/
  reductionLists : Array (List Reduction)
  /-- The shapes, the first of them empty. -/
  shapes : Array Shape
deriving Inhabited

namespace Automaton

/-! ## Parts of a state -/

/-- Item lists by which closures are taken in: by place, the moves from the dot at the start, and
the items that are complete there. -/
private structure Openings where
  moves : Array (Array (Nat × Nat))
  complete : Array (List Nat)

private def openingsOf (t : ItemTable) : Openings :=
  { moves := t.initial.map fun items =>
      ((items.filterMap fun i =>
        if t.next.getD i 0 = 0 then none else some (t.next.getD i 0, t.successor.getD i 0)).mergeSort
          fun a b => a.2 ≤ b.2).toArray
    complete := t.initial.map fun items => items.filter fun i => t.next.getD i 0 = 0 }

/-- The items of a kernel, with those before an inlined symbol replaced. -/
private def expandKernel (t : ItemTable) (k : Kernel) : Array (Nat × Nat) :=
  k.entries.foldl (fun out (i, tokens) =>
    match t.expansion.getD i [] with
    | [] => out.push (i, tokens)
    | is => is.foldl (fun out j => out.push (j, tokens)) out) #[]

/-- By place, the tokens that may follow the nonterminals that items take in; `none` for those
that are not taken in. -/
private def closureOf (t : ItemTable) (entries : Array (Nat × Nat)) : Array (Option Nat) := Id.run do
  let g := t.productions
  let mut look : Array (Option Nat) := .replicate g.ofVariable.size none
  for (i, tokens) in entries do
    let symbol := t.next.getD i 0
    if symbol != 0 && !g.vocabulary.isToken symbol then
      let after := t.after.getD i 0
      let follow := if after = 0 then tokens else after
      for (place, inner, all) in t.closure.getD (g.placeOf symbol) [] do
        let more := if all then inner ||| follow else inner
        look := look.modify place fun
          | none => some more
          | some old => some (old ||| more)
  return look

/-- Puts entries in order and joins those of one item. -/
private def kernelOf (entries : Array (Nat × Nat)) : Kernel := Id.run do
  let mut sorted := true
  for k in [1:entries.size] do
    if (entries.getD (k - 1) default).1 > (entries.getD k default).1 then sorted := false
  let ordered := if sorted then entries else
    (entries.toList.mergeSort fun a b => a.1 ≤ b.1).toArray
  let mut out : Array (Nat × Nat) := #[]
  for (i, tokens) in ordered do
    match out.back? with
    | some (j, old) => out := if i = j then out.pop.push (i, old ||| tokens) else out.push (i, tokens)
    | none => out := out.push (i, tokens)
  return ⟨out⟩

/-- By symbol, the entries that its move leads to. -/
private def movesOf (t : ItemTable) (o : Openings) (entries : Array (Nat × Nat))
    (look : Array (Option Nat)) : Array (Array (Nat × Nat)) := Id.run do
  let mut moves : Array (Array (Nat × Nat)) := .replicate t.productions.vocabulary.size #[]
  for h : place in [0:look.size] do
    match look[place] with
    | none => pure ()
    | some tokens =>
      for (symbol, j) in o.moves.getD place #[] do
        moves := moves.modify symbol (·.push (j, tokens))
  for (i, tokens) in entries do
    let symbol := t.next.getD i 0
    if symbol != 0 then
      moves := moves.modify symbol (·.push (t.successor.getD i 0, tokens))
  return moves

/-! ## Reductions and conflicts -/

/-- The reductions before one token that have been kept so far, with what decides about others. -/
private structure Candidates where
  reductions : List Reduction
  precedence : Option Int
  hasLeft : Bool := false
  hasRight : Bool := false
  hasNone : Bool := false
deriving Inhabited

/-- Adds a reduction unless it has a lower precedence; drops the others if it has a higher one. -/
private def Candidates.add (c : Option Candidates) (r : Reduction) (precedence : Option Int)
    (assoc : Option Assoc) : Candidates :=
  let with' := fun (c : Candidates) =>
    match assoc with
    | some .left => { c with precedence, hasLeft := true }
    | some .right => { c with precedence, hasRight := true }
    | none => { c with precedence, hasNone := true }
  match c with
  | none => with' { reductions := [r], precedence }
  | some c =>
    let new := precedence.getD 0
    let old := c.precedence.getD 0
    if old < new then with' { reductions := [r], precedence }
    else if new = old then with' { c with reductions := c.reductions ++ [r] }
    else c

/-- The outcome for a token with reductions and, possibly, a shift. -/
private structure Verdict where
  reductions : List Reduction
  shift : Bool
  repetition : Bool := false

/-- Decides between the reductions before a token and its shift. -/
private def decideConflict (t : ItemTable) (auxiliary : Nat → Bool) (entries : Array (Nat × Nat))
    (token : Nat) (c : Candidates) (shift : Bool) : Verdict := Id.run do
  let mut shifting : List Nat := []
  let mut finished : List Nat := []
  let mut more := false
  let mut less := false
  for (i, tokens) in entries do
    let symbol := t.next.getD i 0
    if symbol != 0 then
      if (t.first.getD symbol 0).testBit token then
        shifting := t.place.getD i 0 :: shifting
        let p := (t.precedence.getD i none).getD 0
        let q := c.precedence.getD 0
        if q < p then more := true
        if p < q then less := true
    else if tokens.testBit token then
      finished := t.place.getD i 0 :: finished
  if shift then
    let places := shifting ++ finished
    -- Only the items of one repetition are in conflict: the ambiguity of repeating.
    if auxiliary (places.headD 0) && places.all (· = places.headD 0) then
      return { reductions := c.reductions, shift, repetition := true }
    if more && !less then return { reductions := [], shift }
    if less && !more then
      return { reductions := c.reductions, shift := false }
    if !more && !less then
      if c.hasLeft && !c.hasNone && !c.hasRight then
        return { reductions := c.reductions, shift := false }
      if c.hasRight && !c.hasNone && !c.hasLeft then return { reductions := [], shift }
  return { reductions := c.reductions, shift }

/-! ## Construction -/

/-- The automaton while it is built. -/
private structure Builder where
  numbers : Std.HashMap Kernel Nat := {}
  cores : Std.HashMap (Array Nat) Nat := {}
  kernels : Array (Kernel × Nat) := #[]
  listNumbers : Std.HashMap (List Reduction) Nat := {}
  lists : Array (List Reduction) := #[]

private def Builder.stateOf (b : Builder) (k : Kernel) : Builder × Nat :=
  match b.numbers[k]? with
  | some n => (b, n)
  | none =>
    let core := k.entries.map (·.1)
    let n := b.kernels.size
    match b.cores[core]? with
    | some c => ({ b with numbers := b.numbers.insert k n, kernels := b.kernels.push (k, c) }, n)
    | none =>
      let c := b.cores.size
      ({ b with
          numbers := b.numbers.insert k n
          cores := b.cores.insert core c
          kernels := b.kernels.push (k, c) }, n)

private def Builder.listOf (b : Builder) (rs : List Reduction) : Builder × Nat :=
  match b.listNumbers[rs]? with
  | some n => (b, n)
  | none =>
    ({ b with listNumbers := b.listNumbers.insert rs b.lists.size, lists := b.lists.push rs },
      b.lists.size)

/-- What is fixed while the states are filled in. -/
private structure Setting where
  items : ItemTable
  openings : Openings
  /-- By item, what its reduction does once it is complete. -/
  reductionOf : Array Reduction
  auxiliary : Nat → Bool
  extras : List Nat

/-- By token, the candidates for reduction among complete items. -/
private def candidatesOf (s : Setting) (entries : Array (Nat × Nat)) (look : Array (Option Nat)) :
    Array (Option Candidates) := Id.run do
  let t := s.items
  let mut out : Array (Option Candidates) :=
    .replicate t.productions.vocabulary.tokenCount none
  let mut complete : Array (Nat × Nat) := #[]
  for h : place in [0:look.size] do
    match look[place] with
    | none => pure ()
    | some tokens =>
      for i in s.openings.complete.getD place [] do
        complete := complete.push (i, tokens)
  for (i, tokens) in entries do
    if t.next.getD i 0 = 0 then complete := complete.push (i, tokens)
  for (i, tokens) in complete do
    let r := s.reductionOf.getD i default
    for token in [0:out.size] do
      if tokens.testBit token then
        out := out.modify token fun c =>
          some (Candidates.add c r (t.precedence.getD i none) (t.assoc.getD i none))
  return out

/-- Works out one state. -/
private def fillState (s : Setting) (b : Builder) (k : Nat) : Builder × State := Id.run do
  let mut b := b
  let t := s.items
  let tokenCount := t.productions.vocabulary.tokenCount
  let (kernel, core) := b.kernels.getD k default
  let entries := expandKernel t kernel
  let look := closureOf t entries
  let moves := movesOf t s.openings entries look
  let candidates := candidatesOf s entries look
  let mut tokens := 0
  let mut reductions : Array Nat := #[]
  let mut shifts : Array Shift := #[]
  for token in [0:tokenCount] do
    let move := moves.getD token #[]
    let mut shift : Shift := .none
    if !move.isEmpty then
      let (b', n) := b.stateOf (kernelOf move)
      b := b'
      shift := .goto n false
    match candidates.getD token none with
    | none =>
      if s.extras.contains token then shift := .extra
      if shift != .none then tokens := tokens ||| 1 <<< token
      reductions := reductions.push 0
      shifts := shifts.push shift
    | some c =>
      tokens := tokens ||| 1 <<< token
      let mut kept := c.reductions
      if shift != .none || kept.length > 1 then
        let verdict := decideConflict t s.auxiliary entries token c (shift != .none)
        kept := verdict.reductions
        if !verdict.shift then shift := .none
        if verdict.repetition then
          if let .goto n _ := shift then shift := .goto n true
      let (b', n) := b.listOf kept
      b := b'
      reductions := reductions.push n
      shifts := shifts.push shift
  let mut gotos : Array (Nat × Nat) := #[]
  for symbol in [tokenCount:moves.size] do
    let move := moves.getD symbol #[]
    if !move.isEmpty then
      let (b', n) := b.stateOf (kernelOf move)
      b := b'
      gotos := gotos.push (symbol, n)
  return (b, { core, tokens, reductions, shifts, gotos })

/-- Works out all states from number `k` on, and those that turn up meanwhile.  The fuel bounds
their number. -/
private def fillStates (s : Setting) : Nat → Nat → Builder → Array State → Builder × Array State
  | 0, _, b, states => (b, states)
  | fuel + 1, k, b, states =>
    if k < b.kernels.size then
      let (b, state) := fillState s b k
      fillStates s fuel (k + 1) b (states.push state)
    else (b, states)

/-- The fields that reductions to each nonterminal pass on. -/
private def passedFields (g : Productions) : Array (List String) :=
  let grow := fun (passed : Array (List String)) => (Array.range passed.size).map fun place =>
    ((g.ofVariable.getD place []).foldl (fun out p =>
      (g.get p).steps.foldl (fun out s =>
        out ++ s.field.toList ++
          if g.vocabulary.isToken s.symbol || g.vocabulary.isVisible s.symbol || s.renamed.isSome
          then [] else passed.getD (g.placeOf s.symbol) []) out)
      (passed.getD place [])).eraseDups
  (List.range 16).foldl (fun passed _ => grow passed) (.replicate g.ofVariable.size [])

/-- Drops trailing steps without an alias. -/
private def dropTrailingNone (as : List (Option Alias)) : List (Option Alias) :=
  (as.reverse.dropWhile (·.isNone)).reverse

private def shapeOf (g : Productions) (passed : Array (List String)) (p : Production) : Shape :=
  { aliases := dropTrailingNone (p.steps.map (·.renamed))
    fields := p.steps.zipIdx.flatMap fun (s, k) =>
      (s.field.toList.map fun f => (f, k, false)) ++
        if g.vocabulary.isToken s.symbol || g.vocabulary.isVisible s.symbol then []
        else (passed.getD (g.placeOf s.symbol) []).map fun f => (f, k, true) }

/-- The automaton of a grammar's items. -/
def ofItems (t : ItemTable) (extras : List Nat) : Automaton := Id.run do
  let g := t.productions
  let passed := passedFields g
  let mut shapes : Array Shape := #[{}]
  let mut reductionOf : Array Reduction := #[]
  for i in [0:t.next.size] do
    let p := t.production.getD i 0
    if t.next.getD i 0 != 0 || p + 1 = g.all.size then
      reductionOf := reductionOf.push .accept
    else
      let production := g.get p
      let shape := shapeOf g passed production
      let number := (shapes.idxOf? shape).getD shapes.size
      if number = shapes.size then shapes := shapes.push shape
      reductionOf := reductionOf.push (.reduce (g.symbolOf (t.place.getD i 0))
        production.steps.length production.dynamicPrecedence number)
  let setting : Setting :=
    { items := t, openings := openingsOf t, reductionOf, extras
      auxiliary := (g.vocabulary.plainRules ≤ ·) }
  let (b, _) := ({} : Builder).listOf []
  let (b, _) := b.stateOf ⟨#[]⟩
  let (b, _) := b.stateOf ⟨#[(t.start, 1)]⟩
  let (b, states) := fillStates setting 1000000 0 b #[]
  return { items := t, states, reductionLists := b.lists, shapes }

end Automaton

end Checkup.Grammar
