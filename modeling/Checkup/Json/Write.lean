import Checkup.Decimal.Layout

/-!
# Writing JSON

Values are written without blanks.  Of a string, quotation marks, backslashes and control characters
are escaped, and nothing else.
-/

namespace Checkup.Json

/-- A character inside of a string. -/
def writeChar (c : Char) : List Char :=
  match c with
  | '"' => ['\\', '"']
  | '\\' => ['\\', '\\']
  | '\x08' => ['\\', 'b']
  | '\x0c' => ['\\', 'f']
  | '\n' => ['\\', 'n']
  | '\r' => ['\\', 'r']
  | '\t' => ['\\', 't']
  | c =>
    if c < ' ' then
      ['\\', 'u', '0', '0', Nat.digitChar (c.toNat / 16), Nat.digitChar (c.toNat % 16)]
    else [c]

def writeString (cs : List Char) : List Char := '"' :: cs.flatMap writeChar ++ ['"']

/-- A number; what is not finite is written as `null`. -/
def writeNumber (x : Float) : List Char :=
  if x.isFinite then Decimal.Layout.json.render x else ['n', 'u', 'l', 'l']

/-- Values, each already written, between brackets. -/
def writeList (values : List (List Char)) : List Char :=
  '[' :: List.intercalate [','] values ++ [']']

/-- Members in the order given, their values already written. -/
def writeObject (members : List (String × List Char)) : List Char :=
  let written := members.map fun (key, value) => writeString key.toList ++ ':' :: value
  '\x7b' :: List.intercalate [','] written ++ ['\x7d']

end Checkup.Json
