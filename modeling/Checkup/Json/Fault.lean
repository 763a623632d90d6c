import Checkup.Text.Blank
import Checkup.Text.Quoted
import Checkup.Decimal.Layout

/-!
# Faults in JSON texts

A `Fault` says why reading a text stopped, and where.  The place is kept as the part of the text
that was not read, so that a reader need not count; `Fault.message` works out line and column.
-/

namespace Checkup.Json

/-- What a text can end within. -/
inductive Unfinished where
  | value
  | list
  | object
  | string
deriving BEq, DecidableEq, Inhabited

/-- A value found where one of another kind is expected. -/
inductive Found where
  | null
  | boolean (value : Bool)
  | integer (value : Int)
  | number (value : Float)
  | string (value : List Char)
  | list
  | object
deriving BEq, Inhabited

inductive Cause where
  | endWithin (what : Unfinished)
  | valueExpected
  | wordExpected
  | keyExpected
  | colonExpected
  | listSeparatorExpected
  | objectSeparatorExpected
  | trailingComma
  | trailingCharacters
  | invalidNumber
  | numberOutOfRange
  | invalidEscape
  | controlCharacter
  /-- The second half of a surrogate pair without the first, or the first without the second. -/
  | loneSurrogate
  /-- The first half of a surrogate pair is not followed by an escape. -/
  | surrogateExpected
  | unexpected (found : Found) (expected : String)
  /-- A record is written as a list without elements. -/
  | emptyRecord (expected : String)
  | missingField (name : String)
  | duplicateField (name : String)
deriving BEq, Inhabited

structure Fault where
  cause : Cause
  /-- What was left of the text. -/
  rest : List Char
  /-- How many more bytes were looked at, as far as there are so many. -/
  ahead : Nat := 0
deriving BEq, Inhabited

/-- Readers of a text.  Those that read a value give what is left of the text beside it. -/
abbrev Reading := Except Fault

namespace Unfinished

def name : Unfinished → String
  | value => "a value"
  | list => "a list"
  | object => "an object"
  | string => "a string"

end Unfinished

namespace Found

def name : Found → String
  | null => "null"
  | boolean true => "boolean `true`"
  | boolean false => "boolean `false`"
  | integer n => "integer `" ++ Int.repr n ++ "`"
  | number x => "floating point `" ++ String.ofList (Decimal.Layout.json.render x) ++ "`"
  | string s => "string " ++ String.ofList (Text.quoted s)
  | list => "sequence"
  | object => "map"

end Found

namespace Cause

def message : Cause → String
  | endWithin what => "EOF while parsing " ++ what.name
  | valueExpected => "expected value"
  | wordExpected => "expected ident"
  | keyExpected => "key must be a string"
  | colonExpected => "expected `:`"
  | listSeparatorExpected => "expected `,` or `]`"
  | objectSeparatorExpected => "expected `,` or `\x7d`"
  | trailingComma => "trailing comma"
  | trailingCharacters => "trailing characters"
  | invalidNumber => "invalid number"
  | numberOutOfRange => "number out of range"
  | invalidEscape => "invalid escape"
  | controlCharacter => "control character (\\u0000-\\u001F) found while parsing a string"
  | loneSurrogate => "lone leading surrogate in hex escape"
  | surrogateExpected => "unexpected end of hex escape"
  | unexpected found expected => "invalid type: " ++ found.name ++ ", expected " ++ expected
  | emptyRecord expected => "invalid length 0, expected " ++ expected ++ " with 1 element"
  | missingField name => "missing field `" ++ name ++ "`"
  | duplicateField name => "duplicate field `" ++ name ++ "`"

end Cause

/-- A place in a text: its line, from one, and the bytes before it in the line. -/
structure Position where
  line : Nat := 1
  column : Nat := 0
deriving BEq, DecidableEq, Inhabited

/-- The place so many bytes further on in a text, or its end.  The place may be inside of a
character. -/
def Position.advance (p : Position) (bytes : Nat) : List Char → Position
  | [] => p
  | c :: cs =>
    if bytes < c.utf8Size then { p with column := p.column + bytes }
    else
      let next : Position :=
        if c = '\n' then { line := p.line + 1, column := 0 }
        else { p with column := p.column + c.utf8Size }
      next.advance (bytes - c.utf8Size) cs

namespace Fault

/-- Where in the whole text the fault is. -/
def position (f : Fault) (text : List Char) : Position :=
  Position.advance {} (Text.byteLength text - Text.byteLength f.rest + f.ahead) text

def message (f : Fault) (text : List Char) : String :=
  let p := f.position text
  f.cause.message ++ " at line " ++ Nat.repr p.line ++ " column " ++ Nat.repr p.column

/-- The text ends within something. -/
def endWithin (what : Unfinished) : Fault := { cause := .endWithin what, rest := [] }

/-- Reading stops at the next character, having looked at its first byte. -/
def atNext (cause : Cause) (rest : List Char) : Fault := { cause, rest, ahead := 1 }

end Fault

end Checkup.Json
