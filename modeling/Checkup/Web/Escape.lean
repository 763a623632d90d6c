import Checkup.Text.Utf8

/-!
# Percent escapes

Characters that may not stand in a part of an address are written as their bytes, each one a percent
sign and two hexadecimal digits.  An `Escapes` set says for a part which characters these are.
-/

namespace Checkup.Web

/-- The characters to be escaped in a part of an address. -/
abbrev Escapes := Char → Bool

namespace Escapes

/-- Controls and everything beyond ASCII. -/
def controls : Escapes := fun c => c < ' ' || '~' < c

def fragment : Escapes := fun c => controls c || [' ', '"', '<', '>', '`'].contains c

def query : Escapes := fun c => controls c || [' ', '"', '#', '<', '>'].contains c

def specialQuery : Escapes := fun c => query c || c = '\''

def path : Escapes := fun c => fragment c || ['#', '?', '\x7b', '\x7d'].contains c

def user : Escapes := fun c =>
  path c || ['/', ':', ';', '=', '@', '[', '\\', ']', '^', '|'].contains c

end Escapes

/-- A digit in hexadecimal, upper case. -/
def hexDigit (n : Nat) : Char := (Nat.digitChar n).toUpper

def escapeByte (b : UInt8) : List Char := ['%', hexDigit (b.toNat / 16), hexDigit (b.toNat % 16)]

/-- A text with the characters of a set escaped. -/
def escape (set : Escapes) (cs : List Char) : List Char :=
  cs.flatMap fun c => if set c then (Text.Utf8.encodeChar c).flatMap escapeByte else [c]

/-- The value of a digit in a radix up to 16. -/
def digitValue? (radix : Nat) (c : Char) : Option Nat :=
  let n :=
    if '0' ≤ c && c ≤ '9' then c.toNat - '0'.toNat
    else if 'a' ≤ c.toLower && c.toLower ≤ 'f' then c.toLower.toNat - 'a'.toNat + 10
    else 16
  if n < radix then some n else none

/-- The bytes of a text, escapes resolved. -/
def unescape : List Char → List UInt8
  | [] => []
  | c :: cs =>
    match c, cs with
    | '%', h :: l :: rest =>
      match digitValue? 16 h, digitValue? 16 l with
      | some h, some l => UInt8.ofNat (16 * h + l) :: unescape rest
      | _, _ => Text.Utf8.encodeChar '%' ++ unescape (h :: l :: rest)
    | c, cs => Text.Utf8.encodeChar c ++ unescape cs
termination_by cs => cs.length
decreasing_by all_goals simp_all <;> omega

end Checkup.Web
