import Checkup.Grammar.Table
import Checkup.Program.Layout

/-!
# Trees under construction

A `Subtree` is a node while the parser works: its symbol, the blank text before it, its extent, and
the sums by which competing parses are compared.  The most important sum is the cost of the errors
inside it.
-/

namespace Checkup.Parsing

open Grammar Program

/-- A stretch of text, measured in characters, bytes of UTF-8, line ends, and bytes behind the last
line end. -/
structure Extent where
  chars : Nat := 0
  bytes : Nat := 0
  rows : Nat := 0
  columns : Nat := 0
deriving BEq, Inhabited

namespace Extent

/-- One stretch behind the other. -/
def add (a b : Extent) : Extent :=
  { chars := a.chars + b.chars
    bytes := a.bytes + b.bytes
    rows := a.rows + b.rows
    columns := if b.rows = 0 then a.columns + b.columns else b.columns }

instance : Add Extent := ⟨add⟩

def addChar (e : Extent) (c : Char) : Extent :=
  if c = '\n' then ⟨e.chars + 1, e.bytes + 1, e.rows + 1, 0⟩
  else ⟨e.chars + 1, e.bytes + c.utf8Size, e.rows, e.columns + c.utf8Size⟩

/-- The text from one place to another. -/
def between (text : Array Char) (start stop : Nat) : Extent :=
  text.foldl addChar {} start stop

end Extent

/-! ## Error costs -/

namespace Cost

/-- For each time the parser had to recover. -/
def recovery : Nat := 500
/-- For each token that was made up. -/
def missingToken : Nat := 110
/-- For each node that was skipped. -/
def skippedTree : Nat := 100
/-- For each byte that was skipped. -/
def skippedByte : Nat := 1
/-- For each line end that was skipped. -/
def skippedLine : Nat := 30

end Cost

/-- The symbol of an error node. -/
def errorSymbol : Nat := 65535

/-- The symbol of a hidden node that collects skipped tokens. -/
def errorRepeatSymbol : Nat := 65534

structure Subtree where
  symbol : Nat
  padding : Extent
  size : Extent
  children : Array Subtree
  visible : Bool
  named : Bool
  /-- Whether it may stand anywhere, and is not counted among the steps of a production. -/
  extra : Bool := false
  missing : Bool := false
  /-- Whether it is a keyword that was read as a word first. -/
  keyword : Bool := false
  /-- The cost of the errors inside; that of a missing token is added by `Subtree.cost`. -/
  errorCost : Nat := 0
  dynamicPrecedence : Int := 0
  visibleChildren : Nat := 0
  visibleDescendants : Nat := 0
  /-- The production's shape. -/
  shape : Nat := 0
  /-- For a token that the scanner found, the scanner's state behind it. -/
  layout : Option Layout.State := none
  /-- Whether such a token inside changed the scanner's state. -/
  layoutChanged : Bool := false
deriving Inhabited

namespace Subtree

theorem sizeOf_lt_of_mem_children {c t : Subtree} (mem : c ∈ t.children) : sizeOf c < sizeOf t := by
  have inside := Array.sizeOf_lt_of_mem mem
  cases t
  simp only [mk.sizeOf_spec] at inside ⊢
  omega

def isError (t : Subtree) : Bool := t.symbol = errorSymbol

def isEnd (t : Subtree) : Bool := t.symbol = 0

def total (t : Subtree) : Extent := t.padding + t.size

def cost (t : Subtree) : Nat :=
  if t.missing then Cost.missingToken + Cost.recovery else t.errorCost

/-- What counts as progress of the parse: the visible nodes, and collected errors. -/
def nodeCount (t : Subtree) : Nat :=
  t.visibleDescendants + (if t.visible then 1 else 0)
    + if t.symbol = errorRepeatSymbol then 1 else 0

/-- How a symbol shows, error nodes included. -/
def infoOf (table : ParseTable) (symbol : Nat) : SymbolInfo :=
  if symbol = errorSymbol then ⟨"ERROR", true, true⟩
  else if symbol = errorRepeatSymbol then ⟨"_ERROR", false, false⟩
  else table.symbols.getD symbol default

/-- A token. -/
def leaf (table : ParseTable) (symbol : Nat) (padding size : Extent) : Subtree :=
  let info := infoOf table symbol
  { symbol, padding, size, children := #[], visible := info.visible, named := info.named
    extra := symbol = 0 }

/-- A token that the text lacks. -/
def missingLeaf (table : ParseTable) (symbol : Nat) : Subtree :=
  { leaf table symbol {} {} with missing := true }

/-- What has been summed up over the first children of a node. -/
private structure Sums where
  padding : Extent := {}
  size : Extent := {}
  errorCost : Nat := 0
  dynamicPrecedence : Int := 0
  visibleChildren : Nat := 0
  visibleDescendants : Nat := 0
  layoutChanged : Bool := false
  /-- The step of the production. -/
  step : Nat := 0
  first : Bool := true

/-- Adds a child of a node with the symbol. -/
private def Sums.add (symbol : Nat) (aliases : Array (Option Alias)) (s : Sums) (c : Subtree) :
    Sums :=
  let inError := symbol = errorSymbol || symbol = errorRepeatSymbol
  let skipped :=
    if inError && !c.extra && !(c.isError && c.children.isEmpty) then
      if c.visible then Cost.skippedTree
      else if c.children.isEmpty then 0 else Cost.skippedTree * c.visibleChildren
    else 0
  let aliased := !c.extra && (aliases.getD s.step none).isSome
  let shown := aliased || c.visible
  { padding := if s.first then c.padding else s.padding
    size := if s.first then c.size else s.size + c.total
    errorCost := s.errorCost + skipped + if c.symbol = errorRepeatSymbol then 0 else c.cost
    dynamicPrecedence := s.dynamicPrecedence + c.dynamicPrecedence
    visibleChildren := s.visibleChildren + if shown then 1 else c.visibleChildren
    visibleDescendants := s.visibleDescendants + c.visibleDescendants + if shown then 1 else 0
    layoutChanged := s.layoutChanged || c.layoutChanged
    step := if c.extra then s.step else s.step + 1
    first := false }

/-- A node with children.  An error node costs a recovery and all the text it covers. -/
def node (table : ParseTable) (symbol : Nat) (children : Array Subtree) (shape : Nat) : Subtree :=
  let info := infoOf table symbol
  let s := children.foldl (Sums.add symbol (table.shapes.getD shape default).aliases) {}
  let own :=
    if symbol = errorSymbol || symbol = errorRepeatSymbol then
      Cost.recovery + Cost.skippedByte * s.size.bytes + Cost.skippedLine * s.size.rows
    else 0
  { symbol, children, shape
    padding := s.padding
    size := s.size
    visible := info.visible
    named := info.named
    errorCost := s.errorCost + own
    dynamicPrecedence := s.dynamicPrecedence
    visibleChildren := s.visibleChildren
    visibleDescendants := s.visibleDescendants
    layoutChanged := s.layoutChanged }

/-- Compares trees by symbol and number of children, and then their children in order. -/
private def compareTrees (a b : Subtree) : Ordering :=
  (compare a.symbol b.symbol).then <|
    (compare a.children.size b.children.size).then <|
      (a.children.attach.zip b.children).foldl
        (fun o (⟨c, _⟩, d) => o.then (compareTrees c d)) .eq
termination_by a
decreasing_by exact sizeOf_lt_of_mem_children ‹_›

/-- Whether `right` is chosen over `left` for the same text: by cost, by dynamic precedence, and
then, between trees without errors, by their symbols. -/
def prefersRight (left right : Subtree) : Bool :=
  if right.cost ≠ left.cost then right.cost < left.cost
  else if right.dynamicPrecedence ≠ left.dynamicPrecedence then
    left.dynamicPrecedence < right.dynamicPrecedence
  else if 0 < left.cost then true
  else compareTrees left right == .gt

/-- Splits off the extras at the end. -/
def splitTrailingExtras (ts : Array Subtree) : Array Subtree × Array Subtree :=
  let kept := ts.popWhile (·.extra)
  (kept, ts.extract kept.size ts.size)

end Subtree

end Checkup.Parsing
