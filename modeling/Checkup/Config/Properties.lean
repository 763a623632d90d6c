import Checkup.Failure
import Checkup.Text.Blank
import Checkup.Text.Quoted

/-!
# Properties

Properties are written as lines `KEY=VALUE`.  Blanks around keys and values do not count, blank
lines and lines that begin with `#` are skipped, and of several lines with one key the last counts.
`Properties.parse` reads them or finds the first line that is none of these.
-/

namespace Checkup.Config

/-- Keys with their values, in the order of the keys and each key once. -/
structure Properties where
  entries : List (List Char × List Char) := []
deriving BEq, DecidableEq, Inhabited

namespace Properties

def empty : Properties := {}

/-- The value of a key. -/
def get? (p : Properties) (key : List Char) : Option (List Char) := p.entries.lookup key

/-- Entries with another one at its place, instead of one with the same key. -/
def insertEntry (key value : List Char) :
    List (List Char × List Char) → List (List Char × List Char)
  | [] => [(key, value)]
  | (k, v) :: rest =>
    if key = k then (key, value) :: rest
    else if key < k then (key, value) :: (k, v) :: rest
    else (k, v) :: insertEntry key value rest

/-- Gives a key a value, whether it had one or not. -/
def insert (p : Properties) (key value : List Char) : Properties :=
  { entries := insertEntry key value p.entries }

end Properties

/-- What is wrong with a line. -/
inductive LineFault where
  | noSeparator (line : List Char)
  | noKey
deriving BEq, DecidableEq, Inhabited

namespace LineFault

def message : LineFault → String
  | noSeparator line => "expected KEY=VALUE, found " ++ String.ofList (Text.quoted line)
  | noKey => "missing key before '='"

end LineFault

/-- A fault and the number of its line, from one. -/
structure PropertiesFault where
  line : Nat
  fault : LineFault
deriving BEq, DecidableEq, Inhabited

namespace PropertiesFault

def failure (f : PropertiesFault) : Failure :=
  .config ("line " ++ Nat.repr f.line ++ ": " ++ f.fault.message)

end PropertiesFault

namespace Properties

/-- What a line says: an entry, or nothing. -/
def parseLine (raw : List Char) : Except LineFault (Option (List Char × List Char)) :=
  let line := Text.trim raw
  if line = [] || line.head? = some '#' then .ok none
  else
    match line.dropWhile (· ≠ '=') with
    | [] => .error (.noSeparator line)
    | _ :: value =>
      let key := Text.trim (line.takeWhile (· ≠ '='))
      if key = [] then .error .noKey else .ok (some (key, Text.trim value))

/-- Adds what lines say, the first of which has the given number. -/
def parseLines (p : Properties) (number : Nat) :
    List (List Char) → Except PropertiesFault Properties
  | [] => .ok p
  | line :: lines =>
    match parseLine line with
    | .error fault => .error { line := number, fault }
    | .ok none => parseLines p (number + 1) lines
    | .ok (some (key, value)) => parseLines (p.insert key value) (number + 1) lines

def parse (text : List Char) : Except PropertiesFault Properties :=
  parseLines empty 1 (Text.lines text)

/-- The properties in a text, with faults as failures. -/
def ofText (text : List Char) : Except Failure Properties :=
  (parse text).mapError PropertiesFault.failure

end Properties

end Checkup.Config
