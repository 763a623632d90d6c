/-!
# Shortest decimals

`Decimal.ofBinary` finds, for a binary floating-point number, the decimal with the fewest digits
that reads back as that number, and of these the nearest.  All arithmetic is exact.
-/

namespace Checkup.Decimal

/-- The number `factor · 2 ^ twos · 10 ^ tens`. -/
structure Quantity where
  factor : Nat
  twos : Int := 0
  tens : Int := 0

namespace Quantity

/-- How many times the unit `2 ^ twos · 10 ^ tens` it is, for a unit no finer than its own. -/
def inUnits (a : Quantity) (twos tens : Int) : Nat :=
  a.factor <<< (a.twos - twos).toNat * Nat.pow 10 (a.tens - tens).toNat

protected def compare (a b : Quantity) : Ordering :=
  let twos := min a.twos b.twos
  let tens := min a.tens b.tens
  Ord.compare (a.inUnits twos tens) (b.inUnits twos tens)

/-- The whole number of times that `10 ^ k` goes into it. -/
def floorAt (a : Quantity) (k : Int) : Nat :=
  let twos := min a.twos 0
  let tens := min a.tens k
  a.inUnits twos tens / ({ factor := 1, tens := k : Quantity }.inUnits twos tens)

end Quantity

/-- A positive binary number `significand · 2 ^ exponent`.  The numbers that follow one another are
one unit of the exponent apart, but half of that below one that `isLowest`. -/
structure Binary where
  significand : Nat
  exponent : Int
  isLowest : Bool
deriving BEq, DecidableEq, Inhabited

namespace Binary

def value (b : Binary) : Quantity := { factor := b.significand, twos := b.exponent }

/-- The least number that may read back as `b`: halfway to the number before it. -/
def least (b : Binary) : Quantity :=
  { factor := 4 * b.significand - (if b.isLowest then 1 else 2), twos := b.exponent - 2 }

/-- The greatest number that may read back as `b`: halfway to the number after it. -/
def greatest (b : Binary) : Quantity :=
  { factor := 4 * b.significand + 2, twos := b.exponent - 2 }

/-- Whether a number reads back as `b`.  Halfway, the even significand is taken. -/
def readsBack (b : Binary) (a : Quantity) : Bool :=
  match b.least.compare a, a.compare b.greatest with
  | .lt, .lt => true
  | .eq, .lt | .lt, .eq => b.significand % 2 = 0
  | _, _ => false

/-- The magnitude of a finite number other than zero. -/
def ofFloat? (x : Float) : Option Binary :=
  let bits := x.toBits.toNat
  let fraction : Nat := bits % 0x10000000000000
  let biased : Nat := (bits >>> 52) % 0x800
  if biased = 2047 then none
  else if biased = 0 then
    if fraction = 0 then none
    else some { significand := fraction, exponent := -1074, isLowest := false }
  else some {
    significand := 0x10000000000000 + fraction
    exponent := (biased : Int) - 1075
    isLowest := fraction = 0 && 1 < biased }

end Binary

end Decimal

/-- The number `digits · 10 ^ exponent`. -/
structure Decimal where
  digits : Nat
  exponent : Int
deriving BEq, DecidableEq, Inhabited

namespace Decimal

def value (d : Decimal) : Quantity := { factor := d.digits, tens := d.exponent }

/-- Drops zeros at the end of the digits; `fuel` bounds their number. -/
def strip (fuel : Nat) (d : Decimal) : Decimal :=
  match fuel with
  | 0 => d
  | fuel + 1 =>
    if d.digits ≠ 0 ∧ d.digits % 10 = 0 then
      strip fuel { digits := d.digits / 10, exponent := d.exponent + 1 }
    else d

/-- No positive number is smaller than this power of ten. -/
def leastPower : Int := -400

/-- The power of ten of the first digit. -/
def Binary.power (b : Binary) : Int :=
  leastPower + (Nat.toDigits 10 (b.value.floorAt leastPower)).length - 1

/-- Of the two neighbours of the number among the multiples of `10 ^ k`, one that reads back, and
the nearer if both do; of two as near, the even one. -/
def Binary.neighbourAt? (b : Binary) (k : Int) : Option Decimal :=
  let below : Decimal := { digits := b.value.floorAt k, exponent := k }
  let above : Decimal := { digits := below.digits + 1, exponent := k }
  match b.readsBack below.value, b.readsBack above.value with
  | true, true =>
    let middle : Quantity := { factor := 2 * below.digits + 1, twos := -1, tens := k }
    match b.value.compare middle with
    | .lt => some below
    | .gt => some above
    | .eq => some (if below.digits % 2 = 0 then below else above)
  | true, false => some below
  | false, true => some above
  | false, false => none

/-- No number needs more digits than this. -/
def mostDigits : Nat := 17

/-- The shortest decimal that reads back as the number. -/
def ofBinary (b : Binary) : Decimal :=
  let found := (List.range mostDigits).findSome? fun more => b.neighbourAt? (b.power - (more : Nat))
  (found.getD { digits := b.significand, exponent := 0 }).strip mostDigits

end Decimal

end Checkup
