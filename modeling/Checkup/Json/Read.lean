import Checkup.Json.Scan

/-!
# Reading JSON

`skipValue` goes past a value of any kind.  The other readers expect a certain kind: `readText?` a
string or nothing, `readList` a list, and `readRecord` an object with one field that matters, which
may also be written as a list of that field alone.  A value is read as far as its first fault.

Values can be inside of others, so these readers take a bound for the depth of their recursion: any
number greater than the length of the text is enough, since each step goes past a character.
-/

namespace Checkup.Json

/-! ## Separators -/

/-- What comes next in a list: nothing at its end, or else the text of the next element. -/
def nextElement (isFirst : Bool) (cs : List Char) : Reading (Option (List Char)) :=
  match skipBlanks cs with
  | [] => .error (.endWithin .list)
  | c :: rest =>
    if c = ']' then .ok none
    else if isFirst then .ok (some (c :: rest))
    else if c ≠ ',' then .error (.atNext .listSeparatorExpected (c :: rest))
    else
      match skipBlanks rest with
      | [] => .error (.endWithin .value)
      | c :: rest =>
        if c = ']' then .error (.atNext .trailingComma (c :: rest)) else .ok (some (c :: rest))

/-- What comes next in an object: nothing at its end, or else the text behind the quotation mark of
the next key. -/
def nextKey (isFirst : Bool) (cs : List Char) : Reading (Option (List Char)) :=
  match skipBlanks cs with
  | [] => .error (.endWithin .object)
  | c :: rest =>
    if c = '\x7d' then .ok none
    else if isFirst then
      if c = '"' then .ok (some rest) else .error (.atNext .keyExpected (c :: rest))
    else if c ≠ ',' then .error (.atNext .objectSeparatorExpected (c :: rest))
    else
      match skipBlanks rest with
      | [] => .error (.endWithin .value)
      | c :: rest =>
        if c = '"' then .ok (some rest)
        else if c = '\x7d' then .error (.atNext .trailingComma (c :: rest))
        else .error (.atNext .keyExpected (c :: rest))

/-- Goes past the colon behind a key. -/
def skipColon (cs : List Char) : Reading (List Char) :=
  match skipBlanks cs with
  | [] => .error (.endWithin .object)
  | c :: rest => if c = ':' then .ok rest else .error (.atNext .colonExpected (c :: rest))

/-- Goes past the end of a list that may have no more elements. -/
def closeList (cs : List Char) : Reading (List Char) :=
  match skipBlanks cs with
  | [] => .error (.endWithin .list)
  | ']' :: rest => .ok rest
  | ',' :: rest =>
    match skipBlanks rest with
    | ']' :: rest => .error (.atNext .trailingComma (']' :: rest))
    | rest => .error (.atNext .trailingCharacters rest)
  | rest => .error (.atNext .trailingCharacters rest)

/-- What is left behind a closing bracket that comes next, or else from the next character on. -/
def behindBracket (bracket : Char) (cs : List Char) : List Char :=
  match skipBlanks cs with
  | [] => []
  | c :: rest => if c = bracket then rest else c :: rest

/-! ## Values of any kind -/

/-- Goes past the key of the next member and its colon. -/
def skipKey (cs : List Char) : Reading (List Char) :=
  match skipBlanks cs with
  | [] => .error (.endWithin .object)
  | c :: rest => do
    if c = '"' then skipColon (← skipString rest) else .error (.atNext .keyExpected (c :: rest))

mutual

/-- Goes past a value. -/
def skipValue : Nat → List Char → Reading (List Char)
  | 0, _ => .error (.endWithin .value)
  | bound + 1, cs =>
    match skipBlanks cs with
    | [] => .error (.endWithin .value)
    | c :: rest =>
      if c = 'n' then skipWord ['u', 'l', 'l'] rest
      else if c = 't' then skipWord ['r', 'u', 'e'] rest
      else if c = 'f' then skipWord ['a', 'l', 's', 'e'] rest
      else if c = '"' then skipString rest
      else if c = '-' then skipNumber rest
      else if isDigit c then skipNumber (c :: rest)
      else if c = '[' then
        match skipBlanks rest with
        | [] => .error (.endWithin .list)
        | ']' :: rest => .ok rest
        | rest => do skipElements bound (← skipValue bound rest)
      else if c = '\x7b' then
        match skipBlanks rest with
        | [] => .error (.endWithin .object)
        | '\x7d' :: rest => .ok rest
        | rest => do skipMembers bound (← skipValue bound (← skipKey rest))
      else .error (.atNext .valueExpected (c :: rest))

/-- Goes past the elements of a list behind the first, and past its end. -/
def skipElements : Nat → List Char → Reading (List Char)
  | 0, _ => .error (.endWithin .list)
  | bound + 1, cs =>
    match skipBlanks cs with
    | [] => .error (.endWithin .list)
    | ']' :: rest => .ok rest
    | ',' :: rest => do skipElements bound (← skipValue bound rest)
    | rest => .error (.atNext .listSeparatorExpected rest)

/-- Goes past the members of an object behind the first, and past its end. -/
def skipMembers : Nat → List Char → Reading (List Char)
  | 0, _ => .error (.endWithin .object)
  | bound + 1, cs =>
    match skipBlanks cs with
    | [] => .error (.endWithin .object)
    | '\x7d' :: rest => .ok rest
    | ',' :: rest => do skipMembers bound (← skipValue bound (← skipKey rest))
    | rest => .error (.atNext .objectSeparatorExpected rest)

end

/-! ## Values of a kind -/

/-- The fault of a value of another kind than expected.  It is looked at as far as needed to say
what it is, and has faults of its own. -/
def unexpected (expected : String) (cs : List Char) : Fault :=
  let found (result : Reading (Found × List Char)) : Fault :=
    match result with
    | .ok (found, rest) => { cause := .unexpected found expected, rest }
    | .error fault => fault
  let word (word : List Char) (value : Found) (rest : List Char) :=
    found ((skipWord word rest).map (value, ·))
  match cs with
  | 'n' :: rest => word ['u', 'l', 'l'] .null rest
  | 't' :: rest => word ['r', 'u', 'e'] (.boolean true) rest
  | 'f' :: rest => word ['a', 'l', 's', 'e'] (.boolean false) rest
  | '-' :: rest => found (readNumber true rest)
  | '"' :: rest => found ((readString rest).map fun (s, rest) => (.string s, rest))
  | '[' :: rest => found (.ok (.list, '[' :: rest))
  | '\x7b' :: rest => found (.ok (.object, '\x7b' :: rest))
  | cs => if startsWithDigit cs then found (readNumber false cs) else .atNext .valueExpected cs

/-- Reads a string, or nothing where there is `null`. -/
def readText? (cs : List Char) : Reading (Option (List Char) × List Char) :=
  match skipBlanks cs with
  | [] => .error (.endWithin .value)
  | 'n' :: rest => (skipWord ['u', 'l', 'l'] rest).map (none, ·)
  | '"' :: rest => (readString rest).map fun (s, rest) => (some s, rest)
  | rest => .error (unexpected "a string" rest)

/-- Reads the elements of a list, and its end. -/
def readElements {α : Type} (element : List Char → Reading (α × List Char)) :
    Nat → Bool → List Char → Reading (List α × List Char)
  | 0, _, _ => .error (.endWithin .list)
  | bound + 1, isFirst, cs => do
    match ← nextElement isFirst cs with
    | none => .ok ([], behindBracket ']' cs)
    | some cs =>
      let (a, rest) ← element cs
      let (as, rest) ← readElements element bound false rest
      .ok (a :: as, rest)

/-- Reads a list of any length. -/
def readList {α : Type} (bound : Nat) (element : List Char → Reading (α × List Char)) (cs : List Char) :
    Reading (List α × List Char) :=
  match skipBlanks cs with
  | [] => .error (.endWithin .value)
  | '[' :: rest => readElements element bound true rest
  | rest => .error (unexpected "a sequence" rest)

/-- Reads the members of an object, and its end.  Of these, the one with the given name is kept; it
may be there once. -/
def readMembers {α : Type} (field : String) (value : List Char → Reading (α × List Char)) :
    Nat → Bool → Option α → List Char → Reading (Option α × List Char)
  | 0, _, _, _ => .error (.endWithin .object)
  | bound + 1, isFirst, kept, cs => do
    match ← nextKey isFirst cs with
    | none => .ok (kept, behindBracket '\x7d' cs)
    | some cs =>
      let (key, rest) ← readString cs
      if key = field.toList then
        if kept.isSome then
          .error { cause := .duplicateField field, rest := behindBracket '\x7d' rest }
        else
          let (a, rest) ← value (← skipColon rest)
          readMembers field value bound false (some a) rest
      else
        readMembers field value bound false kept (← skipValue bound (← skipColon rest))

/-- A record with one field: how faults name it, the name of the field, and its value where it is
missing, if it may be. -/
structure Record (α : Type) where
  name : String
  field : String
  absent : Option α := none

/-- Reads a record. -/
def readRecord {α : Type} (bound : Nat) (record : Record α) (value : List Char → Reading (α × List Char))
    (cs : List Char) : Reading (α × List Char) :=
  match skipBlanks cs with
  | [] => .error (.endWithin .value)
  | '[' :: rest => do
    match ← nextElement true rest with
    | none => .error { cause := .emptyRecord record.name, rest := behindBracket ']' rest }
    | some rest =>
      let (a, rest) ← value rest
      .ok (a, ← closeList rest)
  | '\x7b' :: rest => do
    let (kept, rest) ← readMembers record.field value bound true none rest
    match kept.or record.absent with
    | some a => .ok (a, rest)
    | none => .error { cause := .missingField record.field, rest }
  | rest => .error (unexpected record.name rest)

/-- Reads a whole text, behind which only blanks may follow. -/
def readWhole {α : Type} (value : List Char → Reading (α × List Char)) (text : List Char) : Reading α := do
  let (a, rest) ← value text
  match skipBlanks rest with
  | [] => .ok a
  | rest => .error (.atNext .trailingCharacters rest)

end Checkup.Json
