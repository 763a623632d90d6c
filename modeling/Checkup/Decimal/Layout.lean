import Checkup.Decimal.Shortest

/-!
# Writing floating-point numbers

`Layout.render` writes a finite number with the digits of its shortest decimal.  A `Layout` says
which numbers are written with a point in place and how the exponent of the others looks.
-/

namespace Checkup.Decimal

structure Layout where
  /-- Numbers from this power of ten on have their point in place … -/
  fromPower : Int
  /-- … if they are less than this one. -/
  toPower : Int
  /-- Whether an exponent that is not negative has a plus sign. -/
  hasPlus : Bool

namespace Layout

/-- Numbers in requests. -/
def json : Layout := { fromPower := -5, toPower := 16, hasPlus := true }

/-- Numbers in descriptions. -/
def description : Layout := { fromPower := -4, toPower := 16, hasPlus := false }

/-- Digits with the point behind the first `whole` of them, and at least one on each side. -/
def withPoint (digits : List Char) (whole : Int) : List Char :=
  if whole ≤ 0 then ['0', '.'] ++ List.replicate (-whole).toNat '0' ++ digits
  else
    let padded := digits ++ List.replicate (whole.toNat - digits.length) '0'
    let fraction := padded.drop whole.toNat
    padded.take whole.toNat ++ '.' :: (if fraction.isEmpty then ['0'] else fraction)

/-- Digits with the point behind the first one, and the exponent of that one. -/
def withExponent (layout : Layout) (digits : List Char) (power : Int) : List Char :=
  let sign := if power < 0 then ['-'] else if layout.hasPlus then ['+'] else []
  digits.take 1 ++ (if digits.length ≤ 1 then [] else '.' :: digits.drop 1) ++
    'e' :: sign ++ Nat.toDigits 10 power.natAbs

def renderDecimal (layout : Layout) (d : Decimal) : List Char :=
  let digits := Nat.toDigits 10 d.digits
  let power := d.exponent + digits.length - 1
  if layout.fromPower ≤ power ∧ power < layout.toPower then withPoint digits (power + 1)
  else layout.withExponent digits power

/-- A finite number.  What is not a number, or infinite, has no digits and is written as zero. -/
def render (layout : Layout) (x : Float) : List Char :=
  let sign := if x.toBits.toNat >>> 63 = 1 then ['-'] else []
  sign ++ match Binary.ofFloat? x with
    | some b => layout.renderDecimal (.ofBinary b)
    | none => ['0', '.', '0']

end Layout

end Checkup.Decimal
