import Checkup.Grammar.Vocabulary

/-!
# Productions

`Productions.ofGrammar` turns the rules of a grammar into productions: repetition becomes
auxiliary nonterminals, alternatives become productions of their own, marks are moved to the steps
they cover, and aliases that a symbol always has are taken out.  `Productions.inlined?` says by
which productions one is replaced where its next symbol is an inlined rule.
-/

namespace Checkup.Grammar

/-- One symbol of a production, with what its rule says about it. -/
structure Step where
  symbol : Nat
  precedence : Option Int := none
  assoc : Option Assoc := none
  renamed : Option Alias := none
  field : Option String := none
deriving BEq, Inhabited

structure Production where
  steps : List Step := []
  dynamicPrecedence : Int := 0
deriving BEq, Inhabited

/-- The nonterminal of a vocabulary, and the productions of each. -/
structure Productions where
  vocabulary : Vocabulary
  /-- By the place of the nonterminal among the nonterminals, the numbers of its productions. -/
  ofVariable : Array (List Nat)
  all : Array Production
  /-- Whether a symbol is inlined. -/
  inlinedSymbols : Array Bool
  /-- By production, the first step with an inlined symbol and the productions that replace the
  production there. -/
  replacements : Array (Option (Nat × List Nat))
  /-- The aliases that symbols always have. -/
  defaultAliases : Array (Option Alias)
deriving Inhabited

/-! ## Repetition -/

/-- The auxiliary nonterminals made so far. -/
private structure Repeats where
  vocabulary : Vocabulary
  made : List (Rule × String)
  countInRule : Nat

mutual

/-- Replaces each repetition by an auxiliary nonterminal that is either one item or two
repetitions. -/
private def expandRepeats (owner : String) : Rule → StateM Repeats Rule
  | .seq rs => return .seq (← expandRepeatsIn owner rs)
  | .choice rs => return .choice (← expandRepeatsIn owner rs)
  | .marked m r => return .marked m (← expandRepeats owner r)
  | .many1 r => do
    let inner ← expandRepeats owner r
    let s ← get
    match s.made.find? fun (r', _) => r' == inner with
    | some (_, name) => return .ref name
    | none =>
      let name := owner ++ "_repeat" ++ Nat.repr (s.countInRule + 1)
      let body := Rule.oneOf [.seq [.ref name, .ref name], inner]
      set { s with
        vocabulary := s.vocabulary.addAuxiliary name body
        made := (inner, name) :: s.made
        countInRule := s.countInRule + 1 }
      return .ref name
  | r => return r

private def expandRepeatsIn (owner : String) : List Rule → StateM Repeats (List Rule)
  | [] => return []
  | r :: rs => return (← expandRepeats owner r) :: (← expandRepeatsIn owner rs)

end

/-- The vocabulary with all repetition in auxiliary nonterminals. -/
private def withoutRepeats (v : Vocabulary) : Vocabulary :=
  let run := v.rules.size.fold (fun k _ (s : Repeats) =>
    let (name, r) := v.rules.getD k default
    let (r, s) := (expandRepeats name r).run { s with countInRule := 0 }
    { s with vocabulary := { s.vocabulary with rules := s.vocabulary.rules.set! k (name, r) } })
    { vocabulary := v, made := [], countInRule := 0 }
  run.vocabulary

/-! ## Alternatives -/

mutual

/-- The alternatives of a rule, each without a choice inside. -/
private def alternatives : Rule → List Rule
  | .choice rs => alternativesOf rs
  | .seq rs => sequencesOf [.blank] rs
  | .marked m r => (alternatives r).map (.marked m)
  | r => [r]

private def alternativesOf : List Rule → List Rule
  | [] => []
  | r :: rs => alternatives r ++ alternativesOf rs

/-- Continues each of the beginnings with each way through the parts. -/
private def sequencesOf (beginnings : List Rule) : List Rule → List Rule
  | [] => beginnings
  | r :: rs =>
    let ways := alternatives r
    sequencesOf (beginnings.flatMap fun b => ways.map fun w => .seq [b, w]) rs

end

/-- The marks in force around a part of a rule. -/
private structure Surroundings where
  precedence : Option Int := none
  assoc : Option Assoc := none
  renamed : Option Alias := none
  field : Option String := none

private def modifyLast (p : Production) (f : Step → Step) : Production :=
  match p.steps.reverse with
  | [] => p
  | last :: front => { p with steps := (f last :: front).reverse }

mutual

/-- Appends the steps of a rule without choices to a production, and says whether there were any.
A mark's precedence covers the steps before which the rule goes on; behind its last step, unless
the production ends there, the surrounding precedence is in force again. -/
private def appendSteps (v : Vocabulary) (around : Surroundings) (atEnd : Bool) (p : Production) :
    Rule → Production × Bool
  | .seq rs => appendStepsIn v around atEnd p rs
  | .marked m r =>
    let inside : Surroundings :=
      { precedence := m.precedence.or around.precedence
        assoc := m.assoc.or around.assoc
        renamed := m.renamed.or around.renamed
        field := m.field.or around.field }
    let p := if p.dynamicPrecedence.natAbs < m.dynamicPrecedence.natAbs then
      { p with dynamicPrecedence := m.dynamicPrecedence } else p
    let (p, any) := appendSteps v inside atEnd p r
    let p := if m.precedence.isSome && any && !atEnd then
      modifyLast p ({ · with precedence := around.precedence }) else p
    let p := if m.assoc.isSome && any && !atEnd then
      modifyLast p ({ · with assoc := around.assoc }) else p
    (p, any)
  | r =>
    match v.ofRule? r with
    | none => (p, false)
    | some symbol =>
      let step : Step :=
        { symbol
          precedence := around.precedence
          assoc := around.assoc
          renamed := around.renamed
          field := around.field }
      ({ p with steps := p.steps ++ [step] }, true)

private def appendStepsIn (v : Vocabulary) (around : Surroundings) (atEnd : Bool) (p : Production) :
    List Rule → Production × Bool
  | [] => (p, false)
  | r :: rs =>
    let (p, any) := appendSteps v around (atEnd && rs.isEmpty) p r
    let (p, more) := appendStepsIn v around atEnd p rs
    (p, any || more)

end

/-- The productions of a rule, each once. -/
private def productionsOf (v : Vocabulary) (r : Rule) : List Production :=
  (alternatives r).foldl (fun out r =>
    let p := (appendSteps v {} true {} r).1
    if out.elem p then out else out ++ [p]) []

/-! ## Aliases that a symbol always has -/

/-- The alias that the uses of a symbol have most often, if none of them goes without. -/
private def usualAlias (uses : List (Option Alias)) : Option Alias :=
  if uses.contains none then none
  else
    let aliases := uses.filterMap id
    aliases.eraseDups.foldl (fun best a =>
      match best with
      | some b => if aliases.count b < aliases.count a then some a else best
      | none => some a) none

/-- Takes out the aliases that are usual for their symbols, where no sibling production needs the
same alias at the same place for another symbol. -/
private def clearUsual (usual : Array (Option Alias)) (ps : List Production) : List Production :=
  ps.zipIdx.map fun (p, i) =>
    { p with steps := p.steps.zipIdx.map fun (s, j) =>
        if s.renamed.isSome && s.renamed == usual.getD s.symbol none then
          let needed := ps.zipIdx.any fun (p', i') =>
            i' != i && match p'.steps[j]? with
              | some s' => s'.renamed == s.renamed && usual.getD s'.symbol none != s.renamed
              | none => false
          if needed then s else { s with renamed := none }
        else s }

/-! ## Inlining -/

/-- The production with its step `k`, an inlined symbol, replaced by one of that symbol's
productions. -/
private def inlineWith (p : Production) (k : Nat) (step : Step) (body : Production) : Production :=
  let inserted := body.steps.map fun s =>
    { s with renamed := step.renamed.or s.renamed, field := step.field.or s.field }
  let inserted := (modifyLast { steps := inserted } fun s =>
    { s with precedence := s.precedence.or step.precedence, assoc := s.assoc.or step.assoc }).steps
  { steps := p.steps.take k ++ inserted ++ p.steps.drop (k + 1)
    dynamicPrecedence :=
      if p.dynamicPrecedence.natAbs < body.dynamicPrecedence.natAbs then body.dynamicPrecedence
      else p.dynamicPrecedence }

/-- All ways to replace the inlined symbols at step `k`.  The fuel bounds how deeply inlined rules
begin with inlined rules. -/
private def inlineAt (bodies : Nat → Option (List Production)) (k : Nat) :
    Nat → Production → List Production
  | 0, p => [p]
  | fuel + 1, p =>
    match p.steps[k]? with
    | none => [p]
    | some step =>
      match bodies step.symbol with
      | none => [p]
      | some ps => ps.flatMap fun body => inlineAt bodies k fuel (inlineWith p k step body)

namespace Productions

/-- The place of a nonterminal among the nonterminals. -/
def placeOf (g : Productions) (symbol : Nat) : Nat := symbol - g.vocabulary.tokenCount

def symbolOf (g : Productions) (place : Nat) : Nat := place + g.vocabulary.tokenCount

def get (g : Productions) (p : Nat) : Production := g.all.getD p default

def isInlined (g : Productions) (symbol : Nat) : Bool := g.inlinedSymbols.getD symbol false

/-- The productions that replace `p` at step `k`, if an inlined symbol stands there. -/
def inlined? (g : Productions) (p k : Nat) : Option (List Nat) :=
  match g.replacements.getD p none with
  | some (k', ps) => if k' = k then some ps else none
  | none => none

/-- Works out the replacements of the productions from number `p` on; replacements are productions
that may need replacements themselves. -/
private def addReplacements (bodies : Nat → Option (List Production)) :
    Nat → Nat → Productions → Productions
  | 0, _, g => g
  | fuel + 1, p, g =>
    if p < g.all.size then
      let production := g.get p
      match production.steps.findIdx? fun s => (bodies s.symbol).isSome with
      | none =>
        addReplacements bodies fuel (p + 1) { g with replacements := g.replacements.push none }
      | some k =>
        let (all, numbers) := (inlineAt bodies k 16 production).foldl (fun (all, numbers) q =>
          match all.idxOf? q with
          | some m => (all, numbers ++ [m])
          | none => (all.push q, numbers ++ [all.size])) (g.all, [])
        addReplacements bodies fuel (p + 1)
          { g with all, replacements := g.replacements.push (some (k, numbers)) }
    else g

/-- The productions of a grammar. -/
def ofGrammar (grammar : Grammar) : Productions := Id.run do
  let vocabulary := withoutRepeats (Vocabulary.ofGrammar grammar)
  let raw := vocabulary.rules.map fun (_, r) => productionsOf vocabulary r
  let inlinedNames := grammar.inlined.filterMap vocabulary.ofName?
  let extras := grammar.extras.filterMap vocabulary.ofName?
  -- The aliases under which each symbol is used.
  let mut uses : Array (List (Option Alias)) := .replicate vocabulary.size []
  for ps in raw do
    for p in ps do
      for s in p.steps do
        if !inlinedNames.contains s.symbol then
          uses := uses.modify s.symbol (· ++ [s.renamed])
  for e in extras do
    uses := uses.modify e (· ++ [none])
  let defaultAliases := uses.map usualAlias
  let cleared := raw.map (clearUsual defaultAliases)
  let mut all : Array Production := #[]
  let mut ofVariable : Array (List Nat) := #[]
  for ps in cleared do
    ofVariable := ofVariable.push (List.range' all.size ps.length)
    all := all ++ ps.toArray
  let bodies := fun symbol =>
    if inlinedNames.contains symbol then cleared[symbol - vocabulary.tokenCount]? else none
  let g : Productions :=
    { vocabulary, ofVariable, all, defaultAliases, replacements := #[]
      inlinedSymbols := (Array.range vocabulary.size).map inlinedNames.contains }
  return addReplacements bodies 100000 0 g

end Productions

end Checkup.Grammar
