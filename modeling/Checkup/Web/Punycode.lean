/-!
# Punycode

`Punycode.encode` writes a label with characters beyond ASCII in ASCII letters, digits and hyphens:
first the ASCII characters, then, in increasing order of the others, how far apart they are.
-/

namespace Checkup.Web.Punycode

/-- The digits are the letters, then the decimal digits. -/
def digit (n : Nat) : Char :=
  if n < 26 then Char.ofNat ('a'.toNat + n) else Char.ofNat ('0'.toNat + (n - 26))

/-- Digits below this one are the last of their number.  It grows with the place of the digit. -/
def threshold (bias place : Nat) : Nat := max 1 (min 26 (place - bias))

/-- A number in digits whose places are 36 apart. -/
def encodeNumber (bias place n : Nat) : List Char :=
  let t := threshold bias place
  if t ≤ n then
    digit (t + (n - t) % (36 - t)) :: encodeNumber bias (place + 36) ((n - t) / (36 - t))
  else [digit n]
termination_by n
decreasing_by
  have : 1 ≤ threshold bias place := Nat.le_max_left ..
  have : (n - threshold bias place) / (36 - threshold bias place) ≤ n - threshold bias place :=
    Nat.div_le_self ..
  omega

/-- How much a number is divided by 35 until it is at most 455, in places. -/
def reduce (n places : Nat) : Nat × Nat :=
  if 455 < n then reduce (n / 35) (places + 36) else (n, places)
termination_by n
decreasing_by omega

/-- The bias for the next number: larger after a larger number. -/
def adapt (n count : Nat) (isFirst : Bool) : Nat :=
  let n := if isFirst then n / 700 else n / 2
  let (n, places) := reduce (n + n / count) 0
  places + 36 * n / (n + 38)

/-- What is written so far, the next number as far as known, the bias, and how many characters are
written. -/
structure Progress where
  written : List Char := []
  delta : Nat := 0
  bias : Nat := 72
  count : Nat
  isFirst : Bool := true

/-- Goes past a character of the label while those equal to `code` are written. -/
def Progress.pass (code : Nat) (p : Progress) (c : Char) : Progress :=
  if c.toNat < code then { p with delta := p.delta + 1 }
  else if c.toNat = code then
    { written := p.written ++ encodeNumber p.bias 36 p.delta
      delta := 0
      bias := adapt p.delta (p.count + 1) p.isFirst
      count := p.count + 1
      isFirst := false }
  else p

/-- Writes the characters with the given codes, of which the next may be `least`. -/
def encodeCodes (label : List Char) (p : Progress) (least : Nat) : List Nat → List Char
  | [] => p.written
  | code :: codes =>
    let p := { p with delta := p.delta + (code - least) * (p.count + 1) }
    let p := label.foldl (Progress.pass code) p
    encodeCodes label { p with delta := p.delta + 1 } (code + 1) codes

/-- A label in ASCII. -/
def encode (label : List Char) : List Char :=
  let basic := label.filter (·.toNat < 0x80)
  let codes := ((label.filter (0x80 ≤ ·.toNat)).map Char.toNat).mergeSort.eraseReps
  basic ++ (if basic = [] then [] else ['-']) ++
    encodeCodes label { count := basic.length } 0x80 codes

end Checkup.Web.Punycode
