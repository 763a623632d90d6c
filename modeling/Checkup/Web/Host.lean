import Checkup.Web.Escape
import Checkup.Web.Names

/-!
# Hosts

A `Host` is a name or a numeric address.  `Host.parse?` reads one as it stands in an address of the
web, where names are brought into ASCII; `Host.parseOpaque?` as it stands in any other address.
-/

namespace Checkup.Web

inductive Host where
  | name (name : List Char)
  /-- An address of 32 bits. -/
  | short (address : Nat)
  /-- An address of 128 bits, as eight groups of 16. -/
  | long (groups : List Nat)
deriving BEq, DecidableEq, Inhabited

namespace Host

/-- A number of digits of a radix; none for no digits. -/
def number? (radix : Nat) (cs : List Char) : Option Nat :=
  if cs = [] then none
  else cs.foldlM (fun n c => (digitValue? radix c).map (radix * n + ·)) 0

/-- A part of a numeric address: decimal, or in another radix that its beginning shows. -/
def part? : List Char → Option Nat
  | ['0', 'x'] | ['0', 'X'] => some 0
  | '0' :: 'x' :: cs | '0' :: 'X' :: cs => number? 16 cs
  | '0' :: c :: cs => number? 8 (c :: cs)
  | cs => number? 10 cs

/-- The labels of a name, without an empty one at the end. -/
def labels (cs : List Char) : List (List Char) :=
  let labels := cs.splitOn '.'
  if 1 < labels.length && labels.getLast? = some [] then labels.dropLast else labels

/-- Whether a name is meant to be a numeric address. -/
def endsInNumber (cs : List Char) : Bool :=
  match (labels cs).getLast? with
  | none => false
  | some last =>
    (last ≠ [] && last.all fun c => (digitValue? 10 c).isSome) ||
      (last ≠ [] && (part? last).isSome && last.head? = some '0')

/-- A numeric address of up to four parts, each but the last a byte. -/
def parseShort? (cs : List Char) : Option Host := do
  let parts := labels cs
  if 4 < parts.length then none
  let numbers ← parts.mapM part?
  let last ← numbers.getLast?
  if numbers.dropLast.any (255 < ·) || 1 <<< (8 * (5 - numbers.length)) ≤ last then none
  some (.short (numbers.dropLast.zipIdx.foldl (fun sum (n, k) => sum + n <<< (8 * (3 - k))) last))

/-- Two groups written as four decimal bytes. -/
def dotted? (cs : List Char) : Option (List Nat) := do
  let byte (cs : List Char) : Option Nat := do
    let n ← number? 10 cs
    if 255 < n || (1 < cs.length && cs.head? = some '0') then none else some n
  match ← (cs.splitOn '.').mapM byte with
  | [a, b, c, d] => some [256 * a + b, 256 * c + d]
  | _ => none

/-- The groups of a text, the last of which may be written as bytes. -/
def groups? (cs : List Char) : Option (List Nat) := do
  if cs = [] then return []
  let texts := cs.splitOn ':'
  let last ← texts.getLast?
  let group (cs : List Char) : Option (List Nat) := do
    if 4 < cs.length then none
    some [← number? 16 cs]
  let groups ← texts.dropLast.mapM group
  return groups.flatten ++ (← if last.contains '.' then dotted? last else group last)

/-- Cuts a text at the first two colons in a row. -/
def cutGap? : List Char → Option (List Char × List Char)
  | [] => none
  | ':' :: ':' :: rest => some ([], rest)
  | c :: rest => (cutGap? rest).map fun (before, after) => (c :: before, after)

/-- Eight groups.  Two colons in a row stand for as many groups of zero as are missing. -/
def parseLong? (cs : List Char) : Option Host := do
  match cutGap? cs with
  | none =>
    let groups ← groups? cs
    if groups.length = 8 then some (.long groups) else none
  | some (before, after) =>
    if before.contains '.' then none
    let high ← groups? before
    let low ← groups? after
    let missing := 8 - (high.length + low.length)
    if missing = 0 then none else some (.long (high ++ List.replicate missing 0 ++ low))

/-- Characters that may not be in a name outside the web. -/
def isForbidden (c : Char) : Bool :=
  ['\x00', '\t', '\n', '\r', ' ', '#', '/', ':', '<', '>', '?', '@', '[', '\\', ']', '^', '|'].contains c

/-- Characters that may not be in a name of the web. -/
def isForbiddenInName (c : Char) : Bool := isForbidden c || c < ' ' || c = '\x7f' || c = '%'

/-- The text between brackets, if there are any. -/
def bracketed? (cs : List Char) : Option (Option (List Char)) :=
  match cs with
  | '[' :: rest => if rest.getLast? = some ']' then some (some rest.dropLast) else some none
  | _ => none

/-- A host in an address of the web. -/
def parse? (names : Names) (cs : List Char) : Option Host := do
  match bracketed? cs with
  | some inside => parseLong? (← inside)
  | none =>
    let name ← names.toAscii? (← Text.Utf8.decode? (unescape cs))
    if name = [] || name.any isForbiddenInName then none
    else if endsInNumber name then parseShort? name
    else some (.name name)

/-- A host in any other address. -/
def parseOpaque? (cs : List Char) : Option Host := do
  match bracketed? cs with
  | some inside => parseLong? (← inside)
  | none => if cs.any isForbidden then none else some (.name (escape .controls cs))

/-- Where the longest run of at least two zeros begins, and its length. -/
def longestGap (groups : List Nat) : Nat × Nat :=
  (List.range groups.length).foldl (fun (start, length) k =>
    let run := ((groups.drop k).takeWhile (· = 0)).length
    if 1 < run && length < run then (k, run) else (start, length)) (0, 0)

def renderGroups (groups : List Nat) : List Char :=
  let text (groups : List Nat) := List.intercalate [':'] (groups.map (Nat.toDigits 16))
  match longestGap groups with
  | (_, 0) => text groups
  | (start, length) =>
    text (groups.take start) ++ [':', ':'] ++ text (groups.drop (start + length))

def render : Host → List Char
  | name n => n
  | short a =>
    List.intercalate ['.'] ([3, 2, 1, 0].map fun k => Nat.toDigits 10 ((a >>> (8 * k)) % 256))
  | long groups => '[' :: renderGroups groups ++ [']']

end Host

end Checkup.Web
