import Checkup.Parsing.Token

/-!
# Parsing with recovery

A `Parse` follows all ways to read a text side by side on one `Stack`.  Where a way cannot go on it
pauses; when all have, the best one recovers: it tries tokens that may be missing, goes back to an
earlier state in which the token is expected, or skips the token.  What this costs
decides which ways are followed further, and which tree is the answer of `parse?`.
-/

namespace Checkup.Parsing

open Grammar

/-- The state of the parser. -/
structure Parse where
  stack : Stack
  finished : Option Subtree := none
  /-- How many trees have been finished. -/
  accepted : Nat := 0
  /-- The token read last. -/
  lastRead : Option LastRead := none
deriving Inhabited

namespace Parse

/-- The most ways that are followed from one round to the next. -/
def maxVersions : Nat := 6

/-- How many more there may be within a round. -/
def versionOverflow : Nat := 4

/-- How far down recovery looks for a state to go back to. -/
def maxSummaryDepth : Nat := 16

/-- A difference in cost that is given up, in proportion to the nodes made since. -/
def maxCostDifference : Nat := 18 * Cost.skippedTree

/-! ## Comparing ways -/

/-- What two ways are compared by. -/
structure Standing where
  cost : Nat
  nodeCount : Nat
  dynamicPrecedence : Int
  inError : Bool

/-- The outcome: drop the other one, or prefer one of the two. -/
inductive Choice where
  | takeLeft
  | preferLeft
  | none
  | preferRight
  | takeRight
deriving BEq

def compareStandings (a b : Standing) : Choice :=
  if !a.inError && b.inError then
    if a.cost < b.cost then .takeLeft else .preferLeft
  else if a.inError && !b.inError then
    if b.cost < a.cost then .takeRight else .preferRight
  else if a.cost < b.cost then
    if maxCostDifference < (b.cost - a.cost) * (1 + a.nodeCount) then .takeLeft else .preferLeft
  else if b.cost < a.cost then
    if maxCostDifference < (a.cost - b.cost) * (1 + b.nodeCount) then .takeRight else .preferRight
  else if b.dynamicPrecedence < a.dynamicPrecedence then .preferLeft
  else if a.dynamicPrecedence < b.dynamicPrecedence then .preferRight
  else .none

/-- The standing of a version. -/
def standing (s : Stack) (v : Nat) : Standing × Stack :=
  let paused := s.isPaused v
  let cost := s.errorCost v
  let (nodeCount, s) := s.nodeCountSinceError v
  ({ nodeCount
     cost := if paused then cost + Cost.skippedTree else cost
     dynamicPrecedence := (s.top v).dynamicPrecedence
     inError := paused || s.state v = 0 }, s)

/-- Whether something better is known than that version `v` goes on at the given cost. -/
def betterExists (p : Parse) (v : Nat) (cost : Nat) : Bool × Parse :=
  match p.finished with
  | some t => if t.cost ≤ cost then (true, p) else others p
  | none => others p
where
  others (p : Parse) : Bool × Parse :=
    let (nodeCount, s) := p.stack.nodeCountSinceError v
    let mine : Standing :=
      { cost, nodeCount, inError := false, dynamicPrecedence := (s.top v).dynamicPrecedence }
    let place := (s.position v).bytes
    let (found, s) := (List.range s.size).foldl (fun (found, s) i =>
      if found || i = v || !s.isActive i || (s.position i).bytes < place then (found, s)
      else
        let (other, s) := standing s i
        match compareStandings mine other with
        | .takeRight => (true, s)
        | .preferRight => (s.canMerge i v, s)
        | _ => (false, s)) (false, s)
    (found, { p with stack := s })

/-! ## Reduction -/

/-- Makes the node for one parse that is left after the children were taken off, from the best of
the ways in which they lead there; returns it with the extras behind it. -/
private def chooseChildren (e : Setting) (symbol shape : Nat) (first : List Subtree)
    (others : List (List Subtree)) : Subtree × Array Subtree :=
  let (children, extras) := Subtree.splitTrailingExtras first.toArray
  others.foldl (fun (parent, extras) other =>
    let (children, extras') := Subtree.splitTrailingExtras other.toArray
    if parent.prefersRight (Subtree.node e.table symbol children 0) then
      (Subtree.node e.table symbol children shape, extras')
    else (parent, extras)) (Subtree.node e.table symbol children shape, extras)

/-- Merges version `w` into an earlier one, other than `v`, if there is one like it. -/
private def mergeIntoEarlier (s : Stack) (v w : Nat) : Nat → Nat → Stack × Bool
  | 0, _ => (s, false)
  | fuel + 1, j =>
    if w ≤ j then (s, false)
    else if j = v then mergeIntoEarlier s v w fuel (j + 1)
    else
      match s.merge? j w with
      | some s => (s, true)
      | none => mergeIntoEarlier s v w fuel (j + 1)

/-- Puts a node for each of the slices in place of what was taken off; slices of one version
follow each other. -/
private def reduceSlices (e : Setting) (v symbol : Nat) (precedence : Int) (shape : Nat) :
    Nat → List Slice → Nat → Stack → Stack
  | 0, _, _, s => s
  | _, [], _, s => s
  | fuel + 1, slice :: rest, removed, s =>
    let same := rest.takeWhile (·.version = slice.version)
    let rest := rest.drop same.length
    let w := slice.version - removed
    if maxVersions + versionOverflow < w then
      reduceSlices e v symbol precedence shape fuel rest (removed + 1) (s.remove w)
    else
      let (parent, extras) := chooseChildren e symbol shape slice.subtrees (same.map (·.subtrees))
      let parent := { parent with dynamicPrecedence := parent.dynamicPrecedence + precedence }
      let next := e.nextState (s.state w) symbol
      let s := s.push w (some parent) next
      let s := extras.foldl (fun s t => s.push w (some t) next) s
      let (s, merged) := mergeIntoEarlier s v w (w + 1) 0
      reduceSlices e v symbol precedence shape fuel rest (if merged then removed + 1 else removed) s

/-- Takes `count` nodes off version `v` and puts a node with them in their place; the versions made
are new.  Returns the first of them. -/
def reduce (e : Setting) (s : Stack) (v symbol count : Nat) (precedence : Int) (shape : Nat) :
    Stack × Option Nat :=
  let before := s.size
  let (s, slices) := s.popCount v count
  let s := reduceSlices e v symbol precedence shape (slices.size + 1) slices.toList 0 s
  (s, if before < s.size then some before else none)

/-! ## The end of the text -/

/-- The root: the last node that is no extra is replaced by its children, and all else is taken in
with them. -/
private def rootOf (e : Setting) (trees : List Subtree) : Option Subtree :=
  let behind := trees.reverse.takeWhile (·.extra)
  match trees.reverse.drop behind.length with
  | [] => none
  | t :: front =>
    some (Subtree.node e.table t.symbol
      (front.reverse.toArray ++ t.children ++ behind.reverse.toArray) t.shape)

/-- Finishes version `v` with the token at the end of the text. -/
def accept (e : Setting) (p : Parse) (v : Nat) (token : Subtree) : Parse :=
  let s := p.stack.push v (some token) 1
  let (s, slices) := s.popAll v
  let p := slices.foldl (fun p slice =>
    match rootOf e slice.subtrees with
    | none => p
    | some root =>
      { p with
        accepted := p.accepted + 1
        finished := match p.finished with
          | some t => if t.prefersRight root then some root else some t
          | none => some root }) { p with stack := s }
  let s := match slices[0]? with
    | some slice => p.stack.remove slice.version
    | none => p.stack
  { p with stack := s.halt v }

/-! ## Recovery -/

/-- The reductions in a state before any of the tokens, and whether one of the tokens can be
shifted.  Of reductions of as many nodes to one symbol the first is kept. -/
private def possibleReductions (e : Setting) (state : Nat) (tokens : List Nat) :
    Array (Nat × Nat × Int × Nat) × Bool :=
  tokens.foldl (fun acc t => (e.actions state t).foldl (fun (found, shifts) a =>
    match a with
    | .shift _ repetition => (found, shifts || !repetition)
    | .recover => (found, true)
    | .reduce symbol count precedence shape =>
      if count = 0 || found.any fun (s, n, _) => s = symbol && n = count then (found, shifts)
      else (found.push (symbol, count, precedence, shape), shifts)
    | _ => (found, shifts)) acc) (#[], false)

/-- Merges version `v` into one of those from `j` on. -/
private def mergeIntoNew (s : Stack) (v : Nat) : Nat → Nat → Option Stack
  | 0, _ => none
  | fuel + 1, j =>
    if v ≤ j then none
    else
      match s.merge? j v with
      | some s => some s
      | none => mergeIntoNew s v fuel (j + 1)

/-- Goes through the versions that reductions make.  The fuel bounds the number of steps, `i` is
the number of the step. -/
private def reduceVersions (e : Setting) (start initial : Nat) (tokens : List Nat)
    (particular : Bool) : Nat → Nat → Nat → Bool → Stack → Stack × Bool
  | 0, _, _, shifts, s => (s, shifts)
  | fuel + 1, i, v, shifts, s =>
    let count := s.size
    if count ≤ v then (s, shifts)
    else
      match mergeIntoNew s v (v + 1) initial with
      | some s => reduceVersions e start initial tokens particular fuel (i + 1) v shifts s
      | none =>
        let (reductions, canShift) := possibleReductions e (s.state v) tokens
        let (s, last) := reductions.foldl (fun (s, _) (symbol, n, precedence, shape) =>
          reduce e s v symbol n precedence shape) (s, none)
        let next := if v = start then count else v + 1
        if canShift then
          reduceVersions e start initial tokens particular fuel (i + 1) next true s
        else
          match last with
          | some w =>
            if i < maxVersions then
              reduceVersions e start initial tokens particular fuel (i + 1) v shifts
                (s.renumber w v)
            else
              reduceVersions e start initial tokens particular fuel (i + 1) next shifts
                (if particular then s.remove v else s)
          | none =>
            reduceVersions e start initial tokens particular fuel (i + 1) next shifts
              (if particular then s.remove v else s)

/-- Makes all reductions that are possible before a token, or before any token at all; says whether
the token can be shifted then.  The end of the text stands for any token. -/
def reduceAll (e : Setting) (s : Stack) (v : Nat) (token : Nat) : Stack × Bool :=
  let tokens := if token = 0 then List.range' 1 (e.table.tokenCount - 1) else [token]
  reduceVersions e v s.size tokens (token ≠ 0) e.maxSteps 0 v false s

/-- Goes back to `state`, `depth` nodes down: what lies above becomes an error node. -/
private def recoverTo (e : Setting) (s : Stack) (v depth state : Nat) : Stack × Bool :=
  let (s, slices) := s.popCount v depth
  let (s, last) := slices.foldl (fun (s, last) slice =>
    let w := slice.version
    if last = some w then (s, last)
    else if s.state w ≠ state then (s.halt w, last)
    else
      let (s, errors) := s.popError w
      let inner := match errors with
        | t :: _ => t.children
        | [] => #[]
      let (children, extras) := Subtree.splitTrailingExtras (inner ++ slice.subtrees.toArray)
      let s := if children.isEmpty then s else
        s.push w (some { Subtree.node e.table errorSymbol children 0 with extra := true }) state
      (extras.foldl (fun s t => s.push w (some t) state) s, some w)) (s, (none : Option Nat))
  (s, last.isSome)

/-- Looks through the earlier states for one that expects the token. -/
private def recoverEarlier (e : Setting) (v : Nat) (token : Subtree) (position : Extent)
    (versions deeper cost : Nat) : List Earlier → Parse → Parse × Bool
  | [], p => (p, false)
  | entry :: rest, p =>
    let skip := recoverEarlier e v token position versions deeper cost rest
    if entry.state = 0 || entry.position.bytes = position.bytes then skip p
    else
      let depth := entry.depth + deeper
      let redundant := (List.range versions).any fun j =>
        p.stack.state j = entry.state && (p.stack.position j).bytes = position.bytes
      if redundant then skip p
      else
        let newCost := cost + entry.depth * Cost.skippedTree
          + (position.bytes - entry.position.bytes) * Cost.skippedByte
          + (position.rows - entry.position.rows) * Cost.skippedLine
        match p.betterExists v newCost with
        | (true, p) => (p, false)
        | (false, p) =>
          if e.hasActions entry.state token.symbol then
            match recoverTo e p.stack v depth entry.state with
            | (s, true) => ({ p with stack := s }, true)
            | (s, false) => skip { p with stack := s }
          else skip p

/-- Removes the versions from number `i` on that are not active. -/
private def removeInactive : Nat → Nat → Stack → Stack
  | 0, _, s => s
  | fuel + 1, i, s =>
    if i < s.size then
      if s.isActive i then removeInactive fuel (i + 1) s else removeInactive fuel i (s.remove i)
    else s

/-- Puts the token into the error on top of version `v`. -/
private def skipToken (e : Setting) (s : Stack) (v : Nat) (token : Subtree) (joins : Bool) : Stack :=
  let token := match (e.actions 1 token.symbol).getLast? with
    | some .shiftExtra => { token with extra := true }
    | _ => token
  let single := Subtree.node e.table errorRepeatSymbol #[token] 0
  let (s, error) :=
    if joins then
      let (s, slices) := s.popCount v 1
      match slices[0]? with
      | none => (s, single)
      | some slice =>
        let s := if 1 < slices.size then
          { s with heads := s.heads.take (slice.version + 1) } else s
        (s.renumber slice.version v,
          Subtree.node e.table errorRepeatSymbol (slice.subtrees.toArray.push single) 0)
    else (s, single)
  let s := s.push v (some error) 0
  match token.layout with
  | some st => s.modifyHead v ({ · with layout := some st })
  | none => s

/-- Recovers version `v`, which is in the error state, before a token: in a version that goes back
to where the token is expected, and in one that skips it. -/
def recover (e : Setting) (p : Parse) (v : Nat) (token : Subtree) : Parse :=
  let versions := p.stack.size
  let position := p.stack.position v
  let summary := ((p.stack.head v).summary.getD #[]).toList
  let (since, s) := p.stack.nodeCountSinceError v
  let p := { p with stack := s }
  let cost := p.stack.errorCost v
  let (p, recovered) :=
    if token.isError then (p, false)
    else recoverEarlier e v token position versions (if 0 < since then 1 else 0) cost summary p
  let p := { p with stack := removeInactive (p.stack.size + 1) versions p.stack }
  if recovered && (maxVersions < p.stack.size || token.layoutChanged) then
    { p with stack := p.stack.halt v }
  else if token.isEnd then
    let s := p.stack.push v (some (Subtree.node e.table errorSymbol #[] 0)) 1
    accept e { p with stack := s } v token
  else
    let newCost := cost + Cost.skippedTree + token.total.bytes * Cost.skippedByte
      + token.total.rows * Cost.skippedLine
    match p.betterExists v newCost with
    | (true, p) => { p with stack := p.stack.halt v }
    | (false, p) => { p with stack := skipToken e p.stack v token (0 < since) }

/-- Tries whether some token is missing before `token` in version `v`: the parse must be able to go
on with it in a copy that has the missing token. -/
private def insertMissing (e : Setting) (s : Stack) (v : Nat) (token : Subtree) :
    List Nat → Stack × Bool
  | [] => (s, false)
  | missing :: rest =>
    let state := s.state v
    let behind := e.nextState state missing
    if behind = 0 || behind = state || !e.startsWithReduction behind token.symbol then
      insertMissing e s v token rest
    else
      let (s, w) := s.copy v
      let s := s.push w (some (Subtree.missingLeaf e.table missing)) behind
      match reduceAll e s w token.symbol with
      | (s, true) => (s, true)
      | (s, false) => insertMissing e s v token rest

/-- Puts the versions `v`, and those from `previous` up to `count`, into the error state. -/
private def enterError (e : Setting) (start previous count : Nat) (token : Subtree) :
    Nat → Nat → Bool → Stack → Stack
  | 0, _, _, s => s
  | fuel + 1, v, inserted, s =>
    if count ≤ v then s
    else
      let (s, inserted) :=
        if inserted then (s, true)
        else insertMissing e s v token (List.range' 1 (e.table.tokenCount - 1))
      let s := s.push v none 0
      enterError e start previous count token fuel (if v = start then previous else v + 1)
        inserted s

/-- Begins the recovery of version `v` before a token. -/
def handleError (e : Setting) (p : Parse) (v : Nat) (token : Subtree) : Parse :=
  let previous := p.stack.size
  let (s, _) := reduceAll e p.stack v 0
  let count := s.size
  let s := enterError e v previous count token (count + 1) v false s
  let s := (List.range (count - previous)).foldl (fun s _ => (s.merge? v previous).getD s) s
  let s := s.recordSummary v maxSummaryDepth
  recover e { p with stack := s } v token

/-! ## Going on -/

/-- What became of one version. -/
private inductive Advance where
  | done (p : Parse)
  /-- Go on in the state with what is on top now. -/
  | again (p : Parse) (token : Subtree)

/-- Takes the actions on a token in order; reductions make new versions.  The last of these is
returned if no other action ends the turn. -/
private def takeActions (e : Setting) (v state : Nat) (token : Subtree) :
    List Action → Parse → Option Nat → Parse × Option Nat × Bool
  | [], p, last => (p, last, false)
  | action :: rest, p, last =>
    match action with
    | .shift next false => ({ p with stack := shift p.stack { token with extra := false } next },
        last, true)
    | .shift _ true => takeActions e v state token rest p last
    | .shiftExtra => ({ p with stack := shift p.stack { token with extra := true } state },
        last, true)
    | .reduce symbol count precedence shape =>
      let (s, made) := reduce e p.stack v symbol count precedence shape
      takeActions e v state token rest { p with stack := s } (made.or last)
    | .accept => (accept e p v token, last, true)
    | .recover => (recover e p v token, last, true)
where
  shift (s : Stack) (token : Subtree) (next : Nat) : Stack :=
    let s := s.push v (some token) next
    match token.layout with
    | some st => s.modifyHead v ({ · with layout := some st })
    | none => s

/-- Moves version `v` past one token, or pauses it before the token.  The fuel bounds the number of
reductions. -/
private def advanceWith (e : Setting) (v : Nat) : Nat → Nat → Subtree → Parse → Parse
  | 0, _, _, p => { p with stack := p.stack.halt v }
  | fuel + 1, state, token, p =>
    match takeActions e v state token (e.actions state token.symbol) p none with
    | (p, _, true) => p
    | (p, some w, false) =>
      let s := p.stack.renumber w v
      advanceWith e v fuel (s.state v) token { p with stack := s }
    | (p, none, false) =>
      -- A keyword that is not expected may be a plain word.
      if token.keyword && token.symbol ≠ 1 && e.hasActions state 1 then
        let info := Subtree.infoOf e.table 1
        advanceWith e v fuel state
          { token with symbol := 1, visible := info.visible, named := info.named } p
      else if state = 0 then recover e p v token
      else { p with stack := p.stack.pause v token }

/-- The token at the top of version `v`: the one read last if it was read there, or else a new
one. -/
def readToken (e : Setting) (p : Parse) (v state : Nat) : Subtree × Parse :=
  match p.lastRead.filter (e.canReuse p.stack v state ·) with
  | some read => (read.token, p)
  | none =>
    let token := e.token p.stack v state
    (token, { p with lastRead := some {
      token, state
      position := (p.stack.position v).bytes
      layout := (p.stack.head v).layout } })

def advance (e : Setting) (p : Parse) (v : Nat) : Parse :=
  let state := p.stack.state v
  let (token, p) := readToken e p v state
  advanceWith e v e.maxSteps state token p

/-- Advances version `v` until it is ahead of `last`, the furthest place so far. -/
private def advanceBeyond (e : Setting) (v : Nat) : Nat → Nat → Parse → Parse × Nat
  | 0, last, p => (p, last)
  | fuel + 1, last, p =>
    if p.stack.isActive v then
      let p := advance e p v
      let place := (p.stack.position v).bytes
      if last < place || (0 < v && place = last) then (p, place)
      else advanceBeyond e v fuel last p
    else (p, last)

/-- Advances all versions, those made meanwhile included; returns how many there were. -/
private def advanceAll (e : Setting) : Nat → Nat → Nat → Parse → Parse × Nat × Nat
  | 0, v, last, p => (p, last, v)
  | fuel + 1, v, last, p =>
    if v < p.stack.size then
      let (p, last) := advanceBeyond e v e.maxSteps last p
      advanceAll e fuel (v + 1) last p
    else (p, last, p.stack.size)

/-! ## Pruning -/

/-- The outcome of comparing version `i` with the earlier ones. -/
private structure Pruned where
  stack : Stack
  i : Int
  j : Int

/-- Compares version `i` with version `j`, of which one may be dropped, merged or moved. -/
private def prunePair (s : Stack) (mine : Standing) (i j : Nat) : Pruned :=
  let (other, s) := standing s j
  match compareStandings other mine with
  | .takeLeft => ⟨s.remove i, i - 1, i - 1⟩
  | .preferLeft | .none =>
    match s.merge? j i with
    | some s => ⟨s, i - 1, i - 1⟩
    | none => ⟨s, i, j⟩
  | .preferRight =>
    match s.merge? j i with
    | some s => ⟨s, i - 1, i - 1⟩
    | none => ⟨s.swap i j, i, j⟩
  | .takeRight => ⟨s.remove j, i - 1, j - 1⟩

/-- Compares version `i` with those from `j` on; returns the number of the version that was compared
last. -/
private def pruneAgainst (mine : Standing) : Nat → Int → Int → Stack → Stack × Int
  | 0, i, _, s => (s, i)
  | fuel + 1, i, j, s =>
    if j < i then
      let r := prunePair s mine i.toNat j.toNat
      pruneAgainst mine fuel r.i (r.j + 1) r.stack
    else (s, i)

/-- Prunes the versions from `i` on; returns the least cost of those that are not in error. -/
private def prune : Nat → Int → Option Nat → Stack → Stack × Option Nat
  | 0, _, least, s => (s, least)
  | fuel + 1, i, least, s =>
    let v := i.toNat
    if v < s.size then
      if s.isHalted v then prune fuel i least (s.remove v)
      else
        let (mine, s) := standing s v
        let least := if mine.inError then least else
          match least with
          | some n => some (min n mine.cost)
          | none => some mine.cost
        let (s, i) := pruneAgainst mine (2 * s.size + 2) i 0 s
        prune fuel (i + 1) least s
    else (s, least)

/-- Resumes the first paused version if none before it goes on, and removes the others. -/
private def resumePaused (e : Setting) :
    Nat → Nat → Nat → Bool → Option Nat → Parse → Parse × Option Nat
  | 0, _, _, _, least, p => (p, least)
  | fuel + 1, i, count, running, least, p =>
    if i < count then
      match (p.stack.head i).status with
      | .paused token =>
        if !running && p.accepted < maxVersions then
          let least := some (p.stack.errorCost i)
          let p := handleError e { p with stack := p.stack.resume i } i token
          resumePaused e fuel (i + 1) count true least p
        else
          resumePaused e fuel i (count - 1) running least { p with stack := p.stack.remove i }
      | _ => resumePaused e fuel (i + 1) count true least p
    else (p, least)

/-- Drops versions that are clearly worse than others, puts the most promising ones first, and
begins recovery if all are paused.  Returns the least cost of a version, `none` if it is unknown. -/
def condense (e : Setting) (p : Parse) : Parse × Option Nat :=
  let (s, least) := prune (4 * p.stack.size + 16) 0 none p.stack
  let s := { s with heads := s.heads.take maxVersions }
  resumePaused e (2 * s.size + 2) 0 s.size false least { p with stack := s }

/-- Runs rounds until no version is left, or a finished tree is better than all of them. -/
private def rounds (e : Setting) : Nat → Nat → Parse → Option Subtree
  | 0, _, _ => none
  | fuel + 1, last, p =>
    let (p, last, count) := advanceAll e e.maxSteps 0 last p
    let (p, least) := condense e p
    match p.finished with
    | some t =>
      if least.all (t.cost < ·) || count = 0 then some t
      else rounds e fuel last p
    | none => if count = 0 then none else rounds e fuel last p

end Parse

/-- The tree of a text. -/
def parse? (table : ParseTable) (text : Array Char) : Option Subtree :=
  let e : Setting := { table, text }
  Parse.rounds e e.maxSteps 0 { stack := .start }

end Checkup.Parsing
