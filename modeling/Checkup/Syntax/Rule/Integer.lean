/-!
# Integer literals

`Integer.fault?` rejects forms that are no longer allowed: the suffix `L`, and decimal
numbers that begin with a zero without being zero.
-/

namespace Checkup.Syntax

inductive Radix where
  | decimal
  | hexadecimal
  | octal
  | binary
deriving BEq, DecidableEq, Inhabited

inductive IntegerFault where
  /-- The literal has the suffix for long integers. -/
  | longSuffix (radix : Radix)
  | leadingZeros
deriving BEq, DecidableEq, Inhabited

namespace Radix

def name : Radix → String
  | decimal => "decimal"
  | hexadecimal => "hexadecimal"
  | octal => "octal"
  | binary => "binary"

/-- The radix that the beginning of a literal in lower case shows. -/
def ofLiteral : List Char → Radix
  | '0' :: 'x' :: _ => hexadecimal
  | '0' :: 'o' :: _ => octal
  | '0' :: 'b' :: _ => binary
  | _ => decimal

end Radix

namespace IntegerFault

def message : IntegerFault → String
  | longSuffix radix => "invalid " ++ radix.name ++ " literal"
  | leadingZeros => "leading zeros in decimal integer literals are not permitted; " ++
      "use an 0o prefix for octal integers"

end IntegerFault

namespace Integer

/-- What is wrong with an integer literal. -/
def fault? (literal : List Char) : Option IntegerFault :=
  let lower := literal.map Char.toLower
  let radix := Radix.ofLiteral lower
  if lower.getLast? = some 'l' then some (.longSuffix radix)
  else if radix ≠ .decimal || lower.getLast? = some 'j' then none
  else
    match lower.filter (· ≠ '_') with
    | '0' :: rest => if rest.any (· ≠ '0') then some .leadingZeros else none
    | _ => none

end Integer

end Checkup.Syntax
