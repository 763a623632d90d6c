import Checkup.Grammar.Automaton
import Checkup.Lexing.Overlap

/-!
# Merging of states

States with the same core differ only in the tokens that may follow.  `Automaton.merge` joins those
of them whose differences cannot matter: no token has different actions in two joined states,
and no token is added to a state in which it could be taken for another one.  `Automaton.skipUnits`
then leaves out states whose only action is to rename a node that nobody sees.
-/

namespace Checkup.Grammar

open Lexing

/-- What decides whether a token may be added to the tokens of a state. -/
structure TokenRules where
  vocabulary : Vocabulary
  /-- By token, the tokens beside which it may not be added, as a mask. -/
  barred : Array Nat
  /-- The tokens that may never be added: those that the scanner finds. -/
  fixed : Nat
  keywords : Nat

namespace TokenRules

/-- A token may not be added beside one it conflicts with, unless the two are a keyword and the
word token. -/
def ofOverlaps (v : Vocabulary) (o : OverlapTable) (keywords : Nat) : TokenRules :=
  { vocabulary := v
    keywords
    fixed := v.scanned.foldl (fun mask s => mask ||| 1 <<< s) 0
    barred := (Array.range v.tokenCount).map fun new =>
      if !v.isLexical new then 0
      else (List.range v.lexicalEnd).foldl (fun mask old =>
        if v.isLexical old
            && !(old = 1 && keywords.testBit new) && !(new = 1 && keywords.testBit old)
            && (o.get (v.lexicalIndex new) (v.lexicalIndex old)).conflicts
        then mask ||| 1 <<< old else mask) 0 }

/-- Whether some token of `new` may not be added to `old`. -/
def bars (r : TokenRules) (old new : Nat) : Bool :=
  let added := new &&& (new ^^^ old)
  added &&& r.fixed != 0 ||
    (added != 0 && (List.range r.vocabulary.lexicalEnd).any fun t =>
      added.testBit t && r.barred.getD t 0 &&& old != 0)

end TokenRules

namespace Automaton

/-- A division of the states: the members of each group, and the group of each state. -/
structure Grouping where
  members : Array (List Nat)
  groupOf : Array Nat
deriving Inhabited

namespace Grouping

/-- Splits the members of a group: each keeps with it those that need not be apart from it, and what
cannot be kept by any of the earlier members is moved out. -/
private def split (apart : Nat → Nat → Bool) : List Nat → List Nat → List Nat → List Nat × List Nat
  | [], kept, moved => (kept.reverse, moved)
  | s :: rest, kept, moved =>
    if moved.contains s then split apart rest kept moved
    else
      let out := rest.filter fun t => !moved.contains t && apart s t
      split apart rest (s :: kept) (moved ++ out)

/-- Splits the groups from number `k` on, those that are made meanwhile included.  The fuel bounds
their number. -/
private def splitFrom (apart : Grouping → Nat → Nat → Bool) :
    Nat → Nat → Grouping → Bool → Grouping × Bool
  | 0, _, g, changed => (g, changed)
  | fuel + 1, k, g, changed =>
    if k < g.members.size then
      match g.members.getD k [] with
      | [] | [_] => splitFrom apart fuel (k + 1) g changed
      | group =>
        match split (apart g) group [] [] with
        | (_, []) => splitFrom apart fuel (k + 1) g changed
        | (kept, moved) =>
          let new := g.members.size
          splitFrom apart fuel (k + 1)
            { members := (g.members.set! k kept).push moved
              groupOf := moved.foldl (fun gs s => gs.set! s new) g.groupOf } true
    else (g, changed)

/-- Splits all groups once. -/
def splitAll (apart : Grouping → Nat → Nat → Bool) (g : Grouping) : Grouping × Bool :=
  splitFrom apart g.groupOf.size 0 g false

/-- Splits until nothing changes. -/
def splitFully (apart : Grouping → Nat → Nat → Bool) : Nat → Grouping → Grouping
  | 0, g => g
  | fuel + 1, g =>
    match g.splitAll apart with
    | (g, true) => splitFully apart fuel g
    | (g, false) => g

end Grouping

/-- Whether two shifts lead to different groups, or only one of them is for repetition. -/
private def shiftsDiffer (g : Grouping) : Shift → Shift → Bool
  | .goto s r, .goto t q => g.groupOf.getD s 0 != g.groupOf.getD t 0 || r != q
  | a, b => a != b

/-- Whether some token has different actions in two states, or would be added to one of them
against the rules. -/
private def statesConflict (a : Automaton) (rules : TokenRules) (g : Grouping) (i j : Nat) : Bool :=
  let s := a.states.getD i default
  let t := a.states.getD j default
  rules.bars s.tokens t.tokens || rules.bars t.tokens s.tokens ||
    (let common := s.tokens &&& t.tokens
    (List.range s.shifts.size).any fun k => common.testBit k &&
      (s.reductions.getD k 0 != t.reductions.getD k 0 ||
        shiftsDiffer g (s.shifts.getD k .none) (t.shifts.getD k .none)))

/-- Whether two states go to different groups on some symbol. -/
private def successorsDiffer (a : Automaton) (g : Grouping) (i j : Nat) : Bool :=
  let s := a.states.getD i default
  let t := a.states.getD j default
  ((List.range s.shifts.size).any fun k =>
    match s.shifts.getD k .none, t.shifts.getD k .none with
    | .goto m _, .goto n _ => g.groupOf.getD m 0 != g.groupOf.getD n 0
    | _, _ => false) ||
  ((List.range s.gotos.size).any fun k =>
    g.groupOf.getD (s.gotos.getD k default).2 0 != g.groupOf.getD (t.gotos.getD k default).2 0)

private def regroup (g : Grouping) : Shift → Shift
  | .goto s r => .goto (g.groupOf.getD s 0) r
  | s => s

/-- One state for a group: the actions of all members. -/
private def joined (a : Automaton) (g : Grouping) (members : List Nat) : State :=
  let states := members.map fun k => a.states.getD k default
  let tokenCount := (states.headD default).shifts.size
  let ofToken := fun k => (states.find? fun s => s.tokens.testBit k).getD default
  { core := (states.headD default).core
    tokens := states.foldl (fun mask s => mask ||| s.tokens) 0
    reductions := (Array.range tokenCount).map fun k => (ofToken k).reductions.getD k 0
    shifts := (Array.range tokenCount).map fun k => regroup g ((ofToken k).shifts.getD k .none)
    gotos := (states.headD default).gotos.map fun (symbol, s) => (symbol, g.groupOf.getD s 0) }

/-- The automaton with compatible states joined. -/
def merge (a : Automaton) (rules : TokenRules) : Automaton := Id.run do
  let coreCount := a.states.foldl (fun n s => max n (s.core + 1)) 0
  let mut members : Array (List Nat) := .replicate coreCount []
  for h : k in [0:a.states.size] do
    members := members.modify a.states[k].core (k :: ·)
  let byCore : Grouping :=
    { members := members.map List.reverse, groupOf := a.states.map (·.core) }
  let (compatible, _) := byCore.splitAll (statesConflict a rules)
  let final := compatible.splitFully (successorsDiffer a) a.states.size
  return { a with states := final.members.map (joined a final) }

/-! ## Unit reductions -/

/-- Whether a reduction only renames a node and leaves no trace in the tree. -/
private def isUnit (a : Automaton) (aliased : Nat → Bool) : Reduction → Option Nat
  | .reduce symbol 1 0 0 =>
    let g := a.items.productions
    if g.vocabulary.isNamed symbol || aliased symbol then none else some symbol
  | _ => none

/-- The symbol that a state's only action, before all tokens, renames to. -/
private def unitSymbol? (a : Automaton) (aliased : Nat → Bool) (s : State) : Option Nat :=
  let onlyExtras := s.shifts.all fun
    | .goto .. => false
    | _ => true
  if !onlyExtras then none
  else
    let rs := (s.reductions.toList.eraseDups.filter (· ≠ 0)).flatMap fun n =>
      a.reductionLists.getD n []
    match rs.map (isUnit a aliased) with
    | some symbol :: rest => if rest.all (· == some symbol) then some symbol else none
    | _ => none

private def gotoOf (gotos : Array (Nat × Nat)) (symbol : Nat) : Option Nat :=
  (gotos.find? (·.1 = symbol)).map (·.2)

/-- Follows the renamings from a state that is reached from one with the given gotos.  The fuel
bounds the number of renamings. -/
private def throughUnits (units : Array (Option Nat)) (gotos : Array (Nat × Nat)) :
    Nat → Nat → Nat
  | 0, s => s
  | fuel + 1, s =>
    match units.getD s none with
    | some symbol =>
      match gotoOf gotos symbol with
      | some t => throughUnits units gotos fuel t
      | none => s
    | none => s

/-- The automaton that goes directly to where renamings of hidden nodes would lead.  Names of
families of kinds are kept, as are symbols with aliases. -/
def skipUnits (a : Automaton) (supertypes : List Nat) : Automaton :=
  let g := a.items.productions
  let withAlias := g.all.foldl (fun out p => p.steps.foldl (fun out s =>
    if s.renamed.isSome then s.symbol :: out else out) out) ([] : List Nat)
  let aliased := fun symbol => supertypes.contains symbol || withAlias.contains symbol ||
    (g.defaultAliases.getD symbol none).isSome
  let units := a.states.map (unitSymbol? a aliased)
  { a with states := a.states.map fun s =>
      let gotos := s.gotos
      { s with
        shifts := s.shifts.map fun
          | .goto t r => .goto (throughUnits units gotos 64 t) r
          | other => other
        gotos := gotos.map fun (symbol, t) => (symbol, throughUnits units gotos 64 t) } }

end Automaton

end Checkup.Grammar
