import Checkup.Grammar.Merging
import Checkup.Lexing.Dfa

/-!
# Parse tables

`ParseTable.ofGrammar` is all that a parser needs to know of a grammar: for each state the actions
on tokens, the gotos on nonterminals, the lexer that looks for the tokens expected there, and the
tokens that the scanner may find.  State `0` recovers from errors, state `1` starts.
-/

namespace Checkup.Grammar

open Lexing

inductive Action where
  | shift (state : Nat) (repetition : Bool)
  | shiftExtra
  | reduce (symbol count : Nat) (dynamicPrecedence : Int) (shape : Nat)
  | accept
  | recover
deriving BEq, Inhabited

/-- How a symbol shows in the tree. -/
structure SymbolInfo where
  name : String
  visible : Bool
  named : Bool
deriving Inhabited

/-- The aliases and the fields of a production's steps. -/
structure StepInfo where
  aliases : Array (Option Alias)
  fields : Array (Option String)
deriving Inhabited

structure ParseTable where
  symbols : Array SymbolInfo
  /-- Symbols below are tokens; symbol `0` is the end of the text, `1` the word token. -/
  tokenCount : Nat
  /-- By state and token. -/
  actions : Array (Array (List Action))
  /-- By state and nonterminal, `0` where there is none. -/
  gotos : Array (Array Nat)
  lexers : Dfa
  /-- By state, the start of its lexer. -/
  lexerOf : Array Nat
  /-- The start of the lexer for keywords. -/
  keywordLexer : Nat
  /-- By the lexers' number of a token, its symbol. -/
  symbolOfToken : Array Nat
  /-- By state, the mask of the scanner's tokens that are expected. -/
  scannedIn : Array Nat
  /-- By the scanner's number of a token, its symbol. -/
  scanned : Array Nat
  /-- By the number of a production's shape. -/
  shapes : Array StepInfo
deriving Inhabited

namespace ParseTable

/-! ## Which tokens occur together -/

/-- By token, the tokens beside which it occurs in some state, and those beside which it occurs in
some state without the word token. -/
private def coincidences (a : Automaton) (tokenCount : Nat) : Array Nat × Array Nat :=
  a.states.foldl (fun (together, wordless) s =>
    (List.range tokenCount).foldl (fun (together, wordless) t =>
      if s.tokens.testBit t then
        (together.modify t (· ||| s.tokens),
          if s.tokens.testBit 1 then wordless else wordless.modify t (· ||| s.tokens))
      else (together, wordless)) (together, wordless))
    (.replicate tokenCount 0, .replicate tokenCount 0)

private structure TokenFacts where
  vocabulary : Vocabulary
  overlaps : OverlapTable
  together : Array Nat
  wordless : Array Nat

namespace TokenFacts

/-- The overlap of two tokens with patterns. -/
private def overlap (f : TokenFacts) (s t : Nat) : Overlap :=
  f.overlaps.get (f.vocabulary.lexicalIndex s) (f.vocabulary.lexicalIndex t)

private def meets (f : TokenFacts) (s t : Nat) : Bool := (f.together.getD s 0).testBit t

private def tokens (f : TokenFacts) : List Nat := List.range' 1 f.vocabulary.lexical.size

private def beginsLikeWord (f : TokenFacts) (t : Nat) : Bool :=
  match (f.vocabulary.lexical.getD (f.vocabulary.lexicalIndex t) default).pattern.fixed with
  | some s => match s.toList with
    | c :: _ => c.isAlpha || c = '_'
    | [] => false
  | none => false

/-- Tokens that are found by reading a word and looking it up: words that no other token could be
taken for once they are read as words. -/
private def keywords (f : TokenFacts) : Nat :=
  let candidates := f.tokens.filter fun t =>
    f.beginsLikeWord t && (f.overlap t 1).sameText && !(f.overlap t 1).otherText
  let unshadowed := candidates.filter fun t =>
    candidates.all fun other => other = t || !(f.overlap other t).sameText
  let safe := unshadowed.filter fun t =>
    f.tokens.all fun other => candidates.contains other
      || !(f.wordless.getD t 0).testBit other
      || f.overlap t other == f.overlap 1 other
  safe.foldl (fun mask t => mask ||| 1 <<< t) 0

/-- The tokens that are looked for in recovery: those that get in no other token's way, and others
that do not conflict with these. -/
private def recoveryTokens (f : TokenFacts) (keywords : Nat) : Nat :=
  let free := f.tokens.filter fun i => f.tokens.all fun j =>
    j = i || f.meets i j ||
      !f.overlaps.shorterOrLonger (f.vocabulary.lexicalIndex i) (f.vocabulary.lexicalIndex j)
  let kept := f.tokens.filter fun i =>
    free.contains i || keywords.testBit i || i = 1 ||
      free.all fun t => f.meets i t || !(f.overlap i t).conflicts
  let lexical := kept.foldl (fun mask t => mask ||| 1 <<< t) 1
  (List.range' f.vocabulary.lexicalEnd (f.vocabulary.tokenCount - f.vocabulary.lexicalEnd)).foldl
    (fun mask t => mask ||| 1 <<< t) lexical

/-- Whether the tokens of two states may be looked for by one lexer. -/
private def mayShareLexer (f : TokenFacts) (a b : Nat) : Bool :=
  f.tokens.all fun i =>
    a.testBit i == b.testBit i ||
      (let without := if a.testBit i then b else a
      f.tokens.all fun t =>
        !without.testBit t ||
          (!(f.overlap i t).conflicts && !(f.overlap i t).beginning &&
            (f.meets i t || (!(f.overlap t i).overlaps && !(f.overlap i t).overlaps))))

end TokenFacts

/-! ## Order of states -/

/-- Drops states that none refers to. -/
private def dropUnused (states : Array State) : Array State := Id.run do
  let mut used : Array Bool := .replicate states.size false
  used := (used.set! 0 true).set! 1 true
  for s in states do
    for sh in s.shifts do
      if let .goto t _ := sh then used := used.set! t true
    for (_, t) in s.gotos do
      used := used.set! t true
  return reorder states ((List.range states.size).filter fun k => used.getD k false)
where
  /-- The states with the given numbers, renumbered. -/
  reorder (states : Array State) (order : List Nat) : Array State := Id.run do
    let mut number : Array Nat := .replicate states.size 0
    for (old, new) in order.zipIdx do
      number := number.set! old new
    return order.toArray.map fun k =>
      let s := states.getD k default
      { s with
        shifts := s.shifts.map fun
          | .goto t r => .goto (number.getD t 0) r
          | other => other
        gotos := s.gotos.map fun (symbol, t) => (symbol, number.getD t 0) }

private def bitCount (mask : Nat) (size : Nat) : Nat := (List.range size).countP mask.testBit

/-- Puts states with more symbols first, behind the states for recovery and start. -/
private def bySize (states : Array State) : Array State :=
  let size := fun k =>
    let s := states.getD k default
    bitCount s.tokens s.shifts.size + s.gotos.size
  let sizes := (Array.range states.size).map size
  dropUnused.reorder states ([0, 1] ++
    (List.range' 2 (states.size - 2)).mergeSort fun a b => sizes.getD b 0 ≤ sizes.getD a 0)

/-! ## The table -/

/-- Groups of token sets that one lexer looks for together, and the group of each set. -/
private def lexerGroups (f : TokenFacts) (sets : Array Nat) : Array Nat × Array Nat :=
  sets.foldl (fun (groups, groupOf) set =>
    match groups.findIdx? fun group => f.mayShareLexer group set with
    | some k => (groups.modify k (· ||| set), groupOf.push k)
    | none => (groups.push set, groupOf.push groups.size)) (#[], #[])

private def actionsOf (a : Automaton) (s : State) : Array (List Action) :=
  (Array.range s.shifts.size).map fun t =>
    let reductions := (a.reductionLists.getD (s.reductions.getD t 0) []).map fun
      | .accept => Action.accept
      | .reduce symbol count precedence shape => .reduce symbol count precedence shape
    match s.shifts.getD t .none with
    | .none => reductions
    | .extra => reductions ++ [.shiftExtra]
    | .goto n repetition => reductions ++ [.shift n repetition]

/-- The parse table of a grammar. -/
def ofGrammar (grammar : Grammar) : ParseTable := Id.run do
  let productions := Productions.ofGrammar grammar
  let v := productions.vocabulary
  let extras := grammar.extras.filterMap v.ofName?
  let items := ItemTable.ofProductions productions
  let automaton := Automaton.ofItems items extras
  let nfa := Nfa.ofPatterns grammar.separators (v.lexical.map (·.pattern))
  -- The tokens that may follow each token, both by the lexers' numbers.
  let following := items.following extras
  let toLexical := fun mask => (List.range v.lexical.size).foldl (fun out k =>
    if mask.testBit (v.ofLexical k) then out ||| 1 <<< k else out) 0
  let overlaps := nfa.overlapTable
    ((Array.range v.lexical.size).map fun k => toLexical (following.getD (v.ofLexical k) 0))
  let (together, wordless) := coincidences automaton v.tokenCount
  let facts : TokenFacts := { vocabulary := v, overlaps, together, wordless }
  let keywords := facts.keywords
  let recovery := facts.recoveryTokens keywords
  let withRecovery := { automaton with
    states := automaton.states.modify 0 fun s => { s with tokens := s.tokens ||| recovery } }
  let merged := withRecovery.merge (TokenRules.ofOverlaps v overlaps keywords)
  let direct := merged.skipUnits (grammar.supertypes.filterMap v.ofName?)
  let states := bySize (dropUnused direct.states)
  -- Lexers: keywords are found by way of the word token.
  let sets := states.map fun s =>
    let lexical := s.tokens &&& ((1 <<< v.lexicalEnd) - 1)
    let words := lexical &&& keywords
    (lexical ^^^ words) ||| if words != 0 then 2 else 0
  let (groups, groupOf) := lexerGroups facts sets
  let tokensIn := fun mask => (List.range v.lexical.size).filter fun k =>
    mask.testBit (v.ofLexical k)
  let (builder, keywordLexer) := (Dfa.Builder.empty nfa).addLexer nfa (tokensIn keywords) false
  let (builder, starts) := groups.foldl (fun (builder, starts) group =>
    let (builder, k) := Dfa.Builder.addLexer builder nfa (tokensIn group) (group.testBit 0)
    (builder, starts.push k)) (builder, (#[] : Array Nat))
  let actions := (states.map (actionsOf direct)).modify 0 fun row =>
    row.mapIdx fun t actions =>
      if actions.isEmpty && recovery.testBit t then [.recover] else actions
  return {
    symbols := (Array.range v.size).map fun s =>
      match productions.defaultAliases.getD s none with
      | some renamed => { name := renamed.name, visible := true, named := renamed.named }
      | none => { name := v.names.getD s "", visible := v.isVisible s, named := v.isNamed s }
    tokenCount := v.tokenCount
    actions
    gotos := states.map fun s => s.gotos.foldl (fun row (symbol, t) =>
      row.set! (symbol - v.tokenCount) t) (.replicate (v.size - v.tokenCount) 0)
    lexers := builder.dfa
    lexerOf := groupOf.map fun k => starts.getD k 0
    keywordLexer
    symbolOfToken := (Array.range v.lexical.size).map v.ofLexical
    scannedIn := states.map fun s => v.scanned.zipIdx.foldl (fun mask (symbol, k) =>
      if s.tokens.testBit symbol then mask ||| 1 <<< k else mask) 0
    scanned := v.scanned
    shapes := direct.shapes.map fun shape =>
      { aliases := shape.aliases.toArray
        fields := shape.fields.foldl (fun row (name, k, passed) =>
          if passed then row else
            (row ++ .replicate (k + 1 - row.size) none).set! k (some name)) #[] } }

end ParseTable

end Checkup.Grammar
