import Checkup.Text.Graphic

/-!
# Text in quotes

`quoted` shows a text between quotation marks so that its exact characters can be seen: quotation
marks, backslashes and characters that do not show are escaped.
-/

namespace Checkup.Text

/-- The digits of a number in hexadecimal, lower case. -/
def hexadecimal (n : Nat) : List Char := Nat.toDigits 16 n

/-- A character between quotation marks. -/
def quotedChar (c : Char) : List Char :=
  match c with
  | '"' => ['\\', '"']
  | '\\' => ['\\', '\\']
  | '\n' => ['\\', 'n']
  | '\r' => ['\\', 'r']
  | '\t' => ['\\', 't']
  | '\x00' => ['\\', '0']
  | c =>
    if isHidden c then ['\\', 'u', '\x7b'] ++ hexadecimal c.toNat ++ ['\x7d'] else [c]

def quoted (cs : List Char) : List Char := '"' :: cs.flatMap quotedChar ++ ['"']

end Checkup.Text
