import Checkup.Parsing.Subtree

/-!
# The stack of parses

All parses of a text that are followed at the same time share one graph of stack nodes.  A node
links back to the nodes below it, each link with the subtree in between; where parses have met
again a node has several links.  A `Head` is the top of one parse.  Nodes are numbered in the
order in which they are made.
-/

namespace Checkup.Parsing

open Grammar Program

/-- A way down from a node; without a subtree where the parse went into recovery. -/
structure Link where
  node : Nat
  subtree : Option Subtree
deriving Inhabited

structure StackNode where
  state : Nat
  position : Extent := {}
  links : Array Link := #[]
  errorCost : Nat := 0
  nodeCount : Nat := 0
  dynamicPrecedence : Int := 0
deriving Inhabited

inductive Status where
  | active
  /-- Held up by a token that it cannot go on with. -/
  | paused (token : Subtree)
  | halted
deriving Inhabited

/-- A state that the parse went through, where it was, and how many nodes lie above it. -/
structure Earlier where
  position : Extent
  depth : Nat
  state : Nat
deriving Inhabited

structure Head where
  node : Nat
  nodeCountAtError : Nat := 0
  /-- The scanner's state behind its last token. -/
  layout : Option Layout.State := none
  status : Status := .active
  /-- Where the parse can go back to. -/
  summary : Option (Array Earlier) := none
deriving Inhabited

structure Stack where
  nodes : Array StackNode
  heads : Array Head
deriving Inhabited

/-- What was taken off one parse, in the order of the text, and the parse that is left. -/
structure Slice where
  subtrees : List Subtree
  version : Nat
deriving Inhabited

namespace Stack

/-- The stack before anything has been read: one parse in the start state. -/
def start : Stack := { nodes := #[{ state := 1 }], heads := #[{ node := 0 }] }

def size (s : Stack) : Nat := s.heads.size

def head (s : Stack) (v : Nat) : Head := s.heads.getD v default

def nodeAt (s : Stack) (n : Nat) : StackNode := s.nodes.getD n default

/-- The node on top of a parse. -/
def top (s : Stack) (v : Nat) : StackNode := s.nodeAt (s.head v).node

def state (s : Stack) (v : Nat) : Nat := (s.top v).state

def position (s : Stack) (v : Nat) : Extent := (s.top v).position

def modifyHead (s : Stack) (v : Nat) (f : Head → Head) : Stack :=
  { s with heads := s.heads.modify v f }

def isActive (s : Stack) (v : Nat) : Bool :=
  match (s.head v).status with
  | .active => true
  | _ => false

def isPaused (s : Stack) (v : Nat) : Bool :=
  match (s.head v).status with
  | .paused _ => true
  | _ => false

def isHalted (s : Stack) (v : Nat) : Bool :=
  match (s.head v).status with
  | .halted => true
  | _ => false

def halt (s : Stack) (v : Nat) : Stack := s.modifyHead v ({ · with status := .halted })

def pause (s : Stack) (v : Nat) (token : Subtree) : Stack :=
  let count := (s.top v).nodeCount
  s.modifyHead v ({ · with status := .paused token, nodeCountAtError := count })

def resume (s : Stack) (v : Nat) : Stack := s.modifyHead v ({ · with status := .active })

def remove (s : Stack) (v : Nat) : Stack := { s with heads := s.heads.eraseIdxIfInBounds v }

/-- Puts parse `v` in the place of parse `w`, whose summary it takes over if it has none. -/
def renumber (s : Stack) (v w : Nat) : Stack :=
  if v = w then s
  else
    let source := s.head v
    let source := { source with summary := source.summary.or (s.head w).summary }
    { s with heads := (s.heads.set! w source).eraseIdxIfInBounds v }

def swap (s : Stack) (v w : Nat) : Stack :=
  let a := s.head v
  let b := s.head w
  { s with heads := (s.heads.set! v b).set! w a }

/-- Adds a copy of a parse. -/
def copy (s : Stack) (v : Nat) : Stack × Nat :=
  ({ s with heads := s.heads.push { s.head v with summary := none } }, s.heads.size)

def push (s : Stack) (v : Nat) (subtree : Option Subtree) (state : Nat) : Stack :=
  let below := (s.head v).node
  let b := s.nodeAt below
  let node : StackNode :=
    match subtree with
    | some t =>
      { state
        position := b.position + t.total
        links := #[⟨below, subtree⟩]
        errorCost := b.errorCost + t.cost
        nodeCount := b.nodeCount + t.nodeCount
        dynamicPrecedence := b.dynamicPrecedence + t.dynamicPrecedence }
    | none => { b with state, links := #[⟨below, none⟩] }
  let n := s.nodes.size
  let s := { s with nodes := s.nodes.push node }
  s.modifyHead v fun h =>
    { h with node := n, nodeCountAtError := if subtree.isNone then node.nodeCount
        else h.nodeCountAtError }

/-! ## Errors and progress -/

def errorCost (s : Stack) (v : Nat) : Nat :=
  let node := s.top v
  let inError := node.state = 0 && match node.links[0]? with
    | some link => link.subtree.isNone
    | none => false
  node.errorCost + if s.isPaused v || inError then Cost.recovery else 0

/-- The nodes made since the last error; a parse that has fewer nodes now counts from these. -/
def nodeCountSinceError (s : Stack) (v : Nat) : Nat × Stack :=
  let count := (s.top v).nodeCount
  let before := (s.head v).nodeCountAtError
  if count < before then (0, s.modifyHead v ({ · with nodeCountAtError := count }))
  else (count - before, s)

/-- Goes down over nodes without text; the fuel bounds their number. -/
private def advancedFrom (s : Stack) (atError : Nat) : Nat → Nat → Bool
  | 0, _ => false
  | fuel + 1, n =>
    let node := s.nodeAt n
    match node.links.toList with
    | ⟨below, some t⟩ :: _ =>
      if 0 < t.total.bytes then true
      else if atError < node.nodeCount && t.cost = 0 then advancedFrom s atError fuel below
      else false
    | _ => false

/-- Whether the parse has read any text since its last error. -/
def hasAdvancedSinceError (s : Stack) (v : Nat) : Bool :=
  (s.top v).errorCost = 0 ||
    s.advancedFrom (s.head v).nodeCountAtError (s.nodes.size + 1) (s.head v).node

/-! ## Merging -/

/-- The most links a node may have. -/
def maxLinks : Nat := 8

/-- Whether two subtrees above a node are as good as the same. -/
private def equivalent : Option Subtree → Option Subtree → Bool
  | none, none => true
  | some a, some b =>
    a.symbol = b.symbol &&
      ((0 < a.cost && 0 < b.cost) ||
        (a.padding.bytes = b.padding.bytes && a.size.bytes = b.size.bytes &&
          a.children.size = b.children.size && a.extra == b.extra && a.layout == b.layout))
  | _, _ => false

private def sameParse (a b : StackNode) : Bool :=
  a.state = b.state && a.position.bytes = b.position.bytes && a.errorCost = b.errorCost

private def precedenceOf (t : Option Subtree) : Int :=
  match t with
  | some t => t.dynamicPrecedence
  | none => 0

/-- Adds a link to a node.  If it has an equivalent one, that one is kept, or the nodes below the
two are merged in turn; the fuel bounds how far down. -/
private def addLink (n : Nat) (link : Link) : Nat → Stack → Stack
  | 0, s => s
  | fuel + 1, s =>
    if link.node = n then s
    else
      let node := s.nodeAt n
      let below := s.nodeAt link.node
      let same := node.links.findIdx? fun old =>
        equivalent old.subtree link.subtree &&
          (old.node = link.node || sameParse (s.nodeAt old.node) below)
      let precedence := below.dynamicPrecedence + precedenceOf link.subtree
      match same with
      | some k =>
        let old := node.links.getD k default
        if old.node = link.node then
          if precedenceOf old.subtree < precedenceOf link.subtree then
            { s with nodes := s.nodes.set! n { node with
                links := node.links.set! k { old with subtree := link.subtree }
                dynamicPrecedence := precedence } }
          else s
        else
          let s := below.links.foldl (fun s l => addLink old.node l fuel s) s
          { s with nodes := s.nodes.modify n fun node =>
              { node with dynamicPrecedence := max node.dynamicPrecedence precedence } }
      | none =>
        if maxLinks ≤ node.links.size then s
        else
          let count := below.nodeCount + match link.subtree with
            | some t => t.nodeCount
            | none => 0
          { s with nodes := s.nodes.set! n { node with
              links := node.links.push link
              nodeCount := max node.nodeCount count
              dynamicPrecedence := max node.dynamicPrecedence precedence } }

/-- Two parses can be merged if they go on in the same way from here. -/
def canMerge (s : Stack) (v w : Nat) : Bool :=
  s.isActive v && s.isActive w && sameParse (s.top v) (s.top w) &&
    (s.head v).layout == (s.head w).layout

/-- Merges parse `w` into parse `v`, if that can be done. -/
def merge? (s : Stack) (v w : Nat) : Option Stack :=
  if s.canMerge v w then
    let n := (s.head v).node
    let s := (s.top w).links.foldl (fun s link => addLink n link s.nodes.size s) s
    let s := if s.state v = 0 then
      let count := (s.top v).nodeCount
      s.modifyHead v ({ · with nodeCountAtError := count }) else s
    some (s.remove w)
  else none

/-! ## Taking nodes off -/

/-- The most ways down that are followed at once. -/
def maxCursors : Nat := 64

/-- A way down: the node reached, the subtrees passed in the order of the text, and how many of
them were no extras. -/
private structure Cursor where
  node : Nat
  subtrees : List Subtree
  count : Nat

private def Cursor.follow (c : Cursor) (link : Link) : Cursor :=
  match link.subtree with
  | some t =>
    { node := link.node, subtrees := t :: c.subtrees
      count := if t.extra then c.count else c.count + 1 }
  | none => { c with node := link.node, count := c.count + 1 }

/-- What is done at a node on the way down. -/
private structure Visit where
  take : Bool
  stop : Bool

/-- Records what was taken off: parses that end at the same node are one. -/
private def addSlice (s : Stack) (slices : Array Slice) (v : Nat) (c : Cursor) :
    Stack × Array Slice :=
  match slices.toList.zipIdx.reverse.find? fun (x, _) => (s.head x.version).node = c.node with
  | some (x, k) => (s, slices.insertIdxIfInBounds (k + 1) ⟨c.subtrees, x.version⟩)
  | none =>
    let h : Head := { s.head v with node := c.node, status := .active, summary := none }
    ({ s with heads := s.heads.push h }, slices.push ⟨c.subtrees, s.heads.size⟩)

/-- One round: every way goes on by one node.  `rest` are the ways still to go on in this round,
`kept` those that have, in reverse, and `added` those that branched off. -/
private def walkRound {σ : Type} (v : Nat) (visit : σ → StackNode → Cursor → σ × Visit) :
    List Cursor → List Cursor → List Cursor → Stack → Array Slice → σ →
      List Cursor × Stack × Array Slice × σ
  | [], kept, added, s, slices, x => (kept.reverse ++ added, s, slices, x)
  | c :: rest, kept, added, s, slices, x =>
    let node := s.nodeAt c.node
    let (x, action) := visit x node c
    let (s, slices) := if action.take then addSlice s slices v c else (s, slices)
    if action.stop || node.links.isEmpty then walkRound v visit rest kept added s slices x
    else
      let branch := node.links.toList.drop 1 |>.foldl (fun added link =>
        if maxCursors ≤ kept.length + 1 + rest.length + added.length then added
        else added ++ [c.follow link]) added
      walkRound v visit rest (c.follow (node.links.getD 0 default) :: kept) branch s slices x

private def walkRounds {σ : Type} (v : Nat) (visit : σ → StackNode → Cursor → σ × Visit) :
    Nat → List Cursor → Stack → Array Slice → σ → Stack × Array Slice × σ
  | 0, _, s, slices, x => (s, slices, x)
  | _, [], s, slices, x => (s, slices, x)
  | fuel + 1, cs, s, slices, x =>
    let (cs, s, slices, x) := walkRound v visit cs [] [] s slices x
    walkRounds v visit fuel cs s slices x

/-- Follows all ways down from the top of a parse. -/
private def walk {σ : Type} (s : Stack) (v : Nat) (visit : σ → StackNode → Cursor → σ × Visit)
    (x : σ) : Stack × Array Slice × σ :=
  walkRounds v visit (s.nodes.size + 2) [⟨(s.head v).node, [], 0⟩] s #[] x

/-- Takes `count` nodes off a parse, extras not counted; makes a parse for each node that is on top
then. -/
def popCount (s : Stack) (v count : Nat) : Stack × Array Slice :=
  let (s, slices, _) := s.walk v (fun _ _ c =>
    let done := c.count = count
    ((), ⟨done, done⟩)) ()
  (s, slices)

/-- Takes everything off a parse. -/
def popAll (s : Stack) (v : Nat) : Stack × Array Slice :=
  let (s, slices, _) := s.walk v (fun _ node _ => ((), ⟨node.links.isEmpty, false⟩)) ()
  (s, slices)

/-- Takes an error node off the top of a parse, if there is one. -/
def popError (s : Stack) (v : Nat) : Stack × List Subtree :=
  let isError := fun (link : Link) => match link.subtree with
    | some t => t.isError
    | none => false
  if (s.top v).links.any isError then
    let (s, slices, _) := s.walk v (fun found _ c =>
      match c.subtrees with
      | [] => (found, ⟨false, false⟩)
      | t :: _ =>
        if !found && t.isError then (true, Visit.mk true true) else (found, ⟨false, true⟩)) false
    match slices[0]? with
    | some slice => (s.renumber slice.version v, slice.subtrees)
    | none => (s, [])
  else (s, [])

/-- Whether a summary has the state at the depth already; entries are in the order of depth. -/
private def summarised (summary : Array Earlier) (depth state : Nat) : Bool :=
  (summary.toList.reverse.takeWhile fun e => depth ≤ e.depth).any fun e =>
    e.depth = depth && e.state = state

/-- Records the states that the parse went through, down to a depth. -/
def recordSummary (s : Stack) (v maxDepth : Nat) : Stack :=
  let (s, _, summary) := s.walk v (fun summary node c =>
    if maxDepth < c.count then (summary, ⟨false, true⟩)
    else if summarised summary c.count node.state then (summary, ⟨false, false⟩)
    else (summary.push ⟨node.position, c.count, node.state⟩, ⟨false, false⟩)) (#[] : Array Earlier)
  s.modifyHead v ({ · with summary := some summary })

end Stack

end Checkup.Parsing
