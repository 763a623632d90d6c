import Checkup.Parsing.Stack

/-!
# Reading tokens

`Setting.token` reads the token at the top of a parse.  The layout scanner is asked first, then the
lexer of the parse's state.  If neither finds a token that is expected, all tokens are looked for;
and where there is none at all, characters are skipped up to one and become an error node.
-/

namespace Checkup.Parsing

open Grammar Program Lexing

/-- A grammar's table and a text to parse. -/
structure Setting where
  table : ParseTable
  text : Array Char

/-- A token that has been read: in which state, where, and behind which state of the scanner. -/
structure LastRead where
  token : Subtree
  state : Nat
  position : Nat
  layout : Option Layout.State
deriving Inhabited

namespace Setting

/-- More steps than the parser takes in a row at one place of the text: what is on its stack comes
from the text before it, and so do the reductions that this leads to. -/
def maxSteps (e : Setting) : Nat := 100 * e.text.size + 1000

def actions (e : Setting) (state symbol : Nat) : List Action :=
  (e.table.actions.getD state #[]).getD symbol []

def hasActions (e : Setting) (state symbol : Nat) : Bool := !(e.actions state symbol).isEmpty

/-- The state behind a symbol, `0` if there is none. -/
def nextState (e : Setting) (state symbol : Nat) : Nat :=
  if symbol < e.table.tokenCount then
    match (e.actions state symbol).getLast? with
    | some (.shift t _) => t
    | some .shiftExtra => state
    | _ => 0
  else (e.table.gotos.getD state #[]).getD (symbol - e.table.tokenCount) 0

/-- Whether the first action on a token is a reduction. -/
def startsWithReduction (e : Setting) (state symbol : Nat) : Bool :=
  match e.actions state symbol with
  | .reduce .. :: _ => true
  | _ => false

/-- A byte order mark at the start of the text belongs to no token. -/
private def skipMark (e : Setting) (place : Nat) : Nat :=
  if place = 0 && e.text[0]? == some '\uFEFF' then 1 else place

/-- How a token was found. -/
private inductive Read where
  | scanned (symbol start stop : Nat) (layout : Layout.State) (changed : Bool)
  | lexed (symbol start stop : Nat)

/-- Asks the layout scanner.  A token without text that leaves the scanner's state as it was does
not count in recovery, right behind an error, or where it would change nothing. -/
private def scanAt (e : Setting) (s : Stack) (v state place : Nat) (errorMode : Bool) :
    Option Read :=
  let layout := (s.head v).layout
  let mode := if errorMode then 0 else state
  let valid : Layout.Valid := ⟨e.table.scannedIn.getD mode 0⟩
  match Layout.scan? e.text valid (layout.getD {}) (e.skipMark place) with
  | none => none
  | some r =>
    let symbol := e.table.scanned.getD r.token.index 0
    let changed := layout != some r.state
    if r.stop ≤ place && !changed &&
        (errorMode || !s.hasAdvancedSinceError v || e.nextState state symbol = state) then none
    else some (.scanned symbol r.start r.stop r.state changed)

/-- What was skipped in search of a token. -/
private structure SkippedText where
  start : Nat
  stop : Nat

/-- Looks for a token from `place` on; returns it, or the characters skipped before one.  The fuel
bounds the number of places that are tried. -/
private def search (e : Setting) (s : Stack) (v state origin : Nat) :
    Nat → Nat → Bool → Option SkippedText → Option SkippedText × Option Read
  | 0, _, _, skipped => (skipped, none)
  | fuel + 1, place, errorMode, skipped =>
    match e.scanAt s v state place errorMode with
    | some r => (skipped, some r)
    | none =>
      let lexer := e.table.lexerOf.getD (if errorMode then 0 else state) 0
      let r := e.table.lexers.run e.text lexer (e.skipMark place)
      match r.found with
      | some f =>
        let symbol := match f.token with
          | some t => e.table.symbolOfToken.getD t 0
          | none => 0
        (skipped, some (.lexed symbol f.start f.stop))
      | none =>
        if !errorMode then search e s v state origin fuel origin true skipped
        else
          let skipped := skipped.getD ⟨r.tokenStart, r.tokenStart⟩
          if r.place = skipped.stop then
            if e.text.size ≤ r.place then (some skipped, none)
            else search e s v state origin fuel (r.place + 1) true
              (some { skipped with stop := r.place + 1 })
          else search e s v state origin fuel r.place true (some { skipped with stop := r.place })

/-- The keyword that a word is, if it is one that is expected in the state, and whether the word
begins like any keyword. -/
private def keywordOf (e : Setting) (state start stop : Nat) : Option Nat × Bool :=
  match (e.table.lexers.run e.text e.table.keywordLexer start).found with
  | some f =>
    let symbol := (f.token.map fun t => e.table.symbolOfToken.getD t 0).getD 0
    (if f.stop = stop && e.hasActions state symbol then some symbol else none, true)
  | none => (none, false)

/-- The next token of parse `v` when it is in `state`. -/
def token (e : Setting) (s : Stack) (v state : Nat) : Subtree :=
  let origin := (s.position v).chars
  let upTo := fun start => Extent.between e.text origin start
  match e.search s v state origin (e.text.size + 3) origin (state = 0) none with
  | (some skipped, _) =>
    Subtree.leaf e.table errorSymbol (upTo skipped.start)
      (.between e.text skipped.start skipped.stop)
  | (none, none) => Subtree.leaf e.table errorSymbol {} {}
  | (none, some (.scanned symbol start stop layout changed)) =>
    { Subtree.leaf e.table symbol (upTo start) (.between e.text start stop) with
      layout := some layout, layoutChanged := changed }
  | (none, some (.lexed symbol start stop)) =>
    let padding := upTo start
    let size := Extent.between e.text start stop
    if symbol = 1 then
      match e.keywordOf state start stop with
      | (some keyword, _) =>
        { Subtree.leaf e.table keyword padding size with keyword := true }
      | (none, likeKeyword) => { Subtree.leaf e.table symbol padding size with keyword := likeKeyword }
    else Subtree.leaf e.table symbol padding size

/-- Whether a state reads tokens in the same way as another one. -/
private def readsAlike (e : Setting) (a b : Nat) : Bool :=
  e.table.lexerOf.getD a 0 = e.table.lexerOf.getD b 0 &&
    e.table.scannedIn.getD a 0 = e.table.scannedIn.getD b 0

/-- Whether parse `v` can take the token read last: it is at the same place, expects the token, and
would read it in the same way.  A word may be a keyword elsewhere. -/
def canReuse (e : Setting) (s : Stack) (v state : Nat) (r : LastRead) : Bool :=
  r.position = (s.position v).bytes && r.layout == (s.head v).layout &&
    e.hasActions state r.token.symbol && e.readsAlike r.state state &&
    (r.token.symbol ≠ 1 || (!r.token.keyword && r.state = state))

end Setting

end Checkup.Parsing
