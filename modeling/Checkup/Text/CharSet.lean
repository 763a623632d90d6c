/-!
# Sets of code points

`CharSet` is a finite union of closed intervals of code points.  It describes which characters
a lexical pattern accepts and which characters have a property of the Unicode standard.  Large
properties are written as text, one `first-last` pair of hexadecimal numbers per interval.
-/

namespace Checkup

/-- Closed intervals of code points, in increasing order and with a gap between neighbours. -/
structure CharSet where
  intervals : Array (Nat × Nat)
deriving BEq, Inhabited

namespace CharSet

/-- The largest code point. -/
def lastCodePoint : Nat := 0x10FFFF

def empty : CharSet := ⟨#[]⟩

/-- Membership of a code point. -/
def contains (s : CharSet) (c : Nat) : Bool :=
  s.intervals.any fun (first, last) => first ≤ c && c ≤ last

/-- Adds an interval that begins no earlier than every interval present. -/
def pushInterval (out : Array (Nat × Nat)) (i : Nat × Nat) : Array (Nat × Nat) :=
  match out.back? with
  | some (first, last) =>
    if i.1 ≤ last + 1 then out.pop.push (first, max last i.2) else out.push i
  | none => out.push i

/-- Any intervals, in any order and with any overlap. -/
def ofIntervals (is : Array (Nat × Nat)) : CharSet :=
  ⟨(is.toList.mergeSort fun a b => a.1 ≤ b.1).foldl pushInterval #[]⟩

def ofChars (s : String) : CharSet :=
  ofIntervals (s.toList.map fun c => (c.toNat, c.toNat)).toArray

/-- All characters from `a` to `b`. -/
def between (a b : Char) : CharSet := ofIntervals #[(a.toNat, b.toNat)]

def union (a b : CharSet) : CharSet := ofIntervals (a.intervals ++ b.intervals)

instance : Union CharSet := ⟨union⟩

/-- All code points that are not in the set. -/
def complement (s : CharSet) : CharSet :=
  let (gaps, next) := s.intervals.foldl (fun (out, from') (first, last) =>
    (if from' < first then out.push (from', first - 1) else out, last + 1)) (#[], 0)
  ⟨if next ≤ lastCodePoint then gaps.push (next, lastCodePoint) else gaps⟩

/-- The value of a hexadecimal digit. -/
private def hexDigit (c : Char) : Nat :=
  if c.isDigit then c.toNat - '0'.toNat
  else if 'a' ≤ c ∧ c ≤ 'f' then c.toNat - 'a'.toNat + 10
  else c.toNat - 'A'.toNat + 10

private def hexNumber (cs : List Char) : Nat :=
  cs.foldl (fun n c => 16 * n + hexDigit c) 0

/-- Reads a table of intervals: items separated by blanks or line ends, each one code point or
`first-last`, in hexadecimal. -/
def ofTable (table : String) : CharSet :=
  let items := table.toList.splitOnP (fun c => c = ' ' || c = '\n')
  ofIntervals <| (items.filter (!·.isEmpty)).toArray.map fun item =>
    let first := item.takeWhile (· ≠ '-')
    match item.drop (first.length + 1) with
    | [] => (hexNumber first, hexNumber first)
    | last => (hexNumber first, hexNumber last)

end CharSet

/-!
## Alphabets

An `Alphabet` divides the code points into classes that no set of a given family tells apart,
so that a set becomes a set of classes: a bit mask.
-/

/-- A partition of the code points into numbered classes.  `starts` are the first code points of
the maximal runs of one class, in increasing order, `classes` the class of each run. -/
structure Alphabet where
  starts : Array Nat
  classes : Array Nat
  /-- The number of classes. -/
  size : Nat
  /-- The classes of the first 128 code points. -/
  ascii : Array Nat
deriving Inhabited

namespace Alphabet

/-- The number of the last run that starts at or before `c`, by bisection of `lo … hi`. -/
private def runOf (starts : Array Nat) (c : Nat) : Nat → Nat → Nat → Nat
  | 0, lo, _ => lo
  | fuel + 1, lo, hi =>
    if hi ≤ lo + 1 then lo
    else
      let mid := (lo + hi) / 2
      if starts.getD mid 0 ≤ c then runOf starts c fuel mid hi else runOf starts c fuel lo mid

private def classByRun (starts classes : Array Nat) (c : Nat) : Nat :=
  classes.getD (runOf starts c 32 0 starts.size) 0

/-- The class of a code point. -/
def classOf (a : Alphabet) (c : Nat) : Nat :=
  if c < 128 then a.ascii.getD c 0 else classByRun a.starts a.classes c

/-- The coarsest partition that each of the sets is a union of classes of. -/
def ofSets (sets : Array CharSet) : Alphabet := Id.run do
  let bounds := sets.flatMap fun s => s.intervals.flatMap fun (first, last) => #[first, last + 1]
  let starts := ((bounds.push 0).toList.mergeSort (· ≤ ·)).eraseReps.toArray
  -- The mask of the sets that a run lies in, run by run.
  let mut masks : Array Nat := .replicate starts.size 0
  for h : k in [0:sets.size] do
    let mut run := 0
    for (first, last) in sets[k].intervals do
      run := runOf starts first 32 run starts.size
      for r in [run:starts.size] do
        if starts.getD r 0 > last then break
        masks := masks.modify r (· ||| 1 <<< k)
  let mut classes : Array Nat := #[]
  let mut seen : Array Nat := #[]
  for mask in masks do
    match seen.idxOf? mask with
    | some k => classes := classes.push k
    | none =>
      classes := classes.push seen.size
      seen := seen.push mask
  return {
    starts, classes
    size := seen.size
    ascii := (Array.range 128).map (classByRun starts classes) }

/-- The classes that make up one of the sets the alphabet was made for, as a bit mask. -/
def maskOf (a : Alphabet) (s : CharSet) : Nat :=
  s.intervals.foldl (fun mask (first, last) =>
    let run := runOf a.starts first 32 0 a.starts.size
    (List.range (a.starts.size - run)).foldl (fun mask k =>
      if a.starts.getD (run + k) 0 ≤ last then mask ||| 1 <<< a.classes.getD (run + k) 0
      else mask) mask) 0

end Alphabet

end Checkup
