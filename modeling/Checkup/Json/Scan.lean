import Checkup.Json.Fault

/-!
# Tokens of JSON

Readers for the parts of a JSON text that are not made of other values: blanks, words, strings and
numbers.  Each `read` function takes the text and gives what is left behind the part; each `skip`
function goes past a part whose value is not wanted, and is content with less: it takes lone
surrogates and numbers of any size.
-/

namespace Checkup.Json

def isBlank (c : Char) : Bool := c = ' ' || c = '\n' || c = '\t' || c = '\r'

def skipBlanks (cs : List Char) : List Char := cs.dropWhile isBlank

/-- Goes past the rest of a word. -/
def skipWord : List Char → List Char → Reading (List Char)
  | [], cs => .ok cs
  | _ :: _, [] => .error (.endWithin .value)
  | e :: es, c :: cs => if c = e then skipWord es cs else .error (.atNext .wordExpected (c :: cs))

/-! ## Strings -/

def hexValue? (c : Char) : Option Nat :=
  if '0' ≤ c && c ≤ '9' then some (c.toNat - '0'.toNat)
  else if 'a' ≤ c && c ≤ 'f' then some (c.toNat - 'a'.toNat + 10)
  else if 'A' ≤ c && c ≤ 'F' then some (c.toNat - 'A'.toNat + 10)
  else none

/-- The number that four hexadecimal digits at the beginning of a text give.  They are taken as
four bytes at once, whatever those are. -/
def hexEscape (cs : List Char) : Reading Nat :=
  match (cs.take 4).mapM hexValue? with
  | some [a, b, c, d] => .ok (((a * 16 + b) * 16 + c) * 16 + d)
  | _ =>
    if Text.byteLength (cs.take 4) < 4 then .error (.endWithin .string)
    else .error { cause := .invalidEscape, rest := cs, ahead := 4 }

/-- What a single character stands for behind a backslash. -/
def shortEscape? : Char → Option Char
  | '"' => some '"'
  | '\\' => some '\\'
  | '/' => some '/'
  | 'b' => some '\x08'
  | 'f' => some '\x0c'
  | 'n' => some '\n'
  | 'r' => some '\r'
  | 't' => some '\t'
  | _ => none

def isHighSurrogate (n : Nat) : Bool := 0xd800 ≤ n && n ≤ 0xdbff

def isLowSurrogate (n : Nat) : Bool := 0xdc00 ≤ n && n ≤ 0xdfff

/-- The character for a surrogate pair. -/
def ofSurrogates (high low : Nat) : Char :=
  Char.ofNat (0x10000 + (high - 0xd800) * 0x400 + (low - 0xdc00))

/-- The character that an escape behind `\u` stands for, and how many characters it takes. -/
def unicodeEscape (cs : List Char) : Reading (Char × Nat) := do
  let n ← hexEscape cs
  let rest := cs.drop 4
  if isLowSurrogate n then .error { cause := .loneSurrogate, rest }
  else if !isHighSurrogate n then .ok (Char.ofNat n, 4)
  else
    match rest with
    | [] => .error (.endWithin .string)
    | ['\\'] => .error (.endWithin .string)
    | '\\' :: 'u' :: cs =>
      let low ← hexEscape cs
      if isLowSurrogate low then .ok (ofSurrogates n low, 10)
      else .error { cause := .loneSurrogate, rest := cs.drop 4 }
    | '\\' :: rest => .error (.atNext .surrogateExpected rest)
    | rest => .error (.atNext .surrogateExpected rest)

/-- The character that an escape behind a backslash stands for, and how many characters it takes. -/
def escape : List Char → Reading (Char × Nat)
  | [] => .error (.endWithin .string)
  | c :: cs =>
    if c = 'u' then (unicodeEscape cs).map fun (d, used) => (d, used + 1)
    else
      match shortEscape? c with
      | some d => .ok (d, 1)
      | none => .error (.atNext .invalidEscape (c :: cs))

/-- Reads a string behind its quotation mark, where the first so many characters are done with. -/
def readStringFrom : Nat → List Char → Reading (List Char × List Char)
  | _, [] => .error (.endWithin .string)
  | n + 1, _ :: cs => readStringFrom n cs
  | 0, c :: cs =>
    if c = '"' then .ok ([], cs)
    else if c = '\\' then do
      let (d, used) ← escape cs
      let (ds, rest) ← readStringFrom used cs
      .ok (d :: ds, rest)
    else if c < ' ' then .error { cause := .controlCharacter, rest := cs }
    else do
      let (ds, rest) ← readStringFrom 0 cs
      .ok (c :: ds, rest)

/-- Reads a string behind its quotation mark. -/
def readString (cs : List Char) : Reading (List Char × List Char) := readStringFrom 0 cs

/-- How many characters an escape behind a backslash takes, whatever it stands for. -/
def escapeLength : List Char → Reading Nat
  | [] => .error (.endWithin .string)
  | c :: cs =>
    if c = 'u' then (hexEscape cs).map fun _ => 5
    else if (shortEscape? c).isSome then .ok 1
    else .error (.atNext .invalidEscape (c :: cs))

/-- Goes past a string, where the first so many characters are done with. -/
def skipStringFrom : Nat → List Char → Reading (List Char)
  | _, [] => .error (.endWithin .string)
  | n + 1, _ :: cs => skipStringFrom n cs
  | 0, c :: cs =>
    if c = '"' then .ok cs
    else if c = '\\' then do skipStringFrom (← escapeLength cs) cs
    else if c < ' ' then .error { cause := .controlCharacter, rest := c :: cs }
    else skipStringFrom 0 cs

/-- Goes past a string behind its quotation mark. -/
def skipString (cs : List Char) : Reading (List Char) := skipStringFrom 0 cs

/-! ## Numbers -/

def isDigit (c : Char) : Bool := '0' ≤ c && c ≤ '9'

def digitValue (c : Char) : Nat := c.toNat - '0'.toNat

def startsWithDigit : List Char → Bool
  | c :: _ => isDigit c
  | [] => false

def skipDigits (cs : List Char) : List Char := cs.dropWhile isDigit

/-- Significands are less than this; further digits are not kept. -/
def significandBound : Nat := 0x10000000000000000

/-- Takes digits into a significand while there is room.  Gives it, how many digits it took, and
what is left. -/
def takeDigits (n taken : Nat) : List Char → Nat × Nat × List Char
  | [] => (n, taken, [])
  | c :: cs =>
    if isDigit c && n * 10 + digitValue c < significandBound then
      takeDigits (n * 10 + digitValue c) (taken + 1) cs
    else (n, taken, c :: cs)

/-- The greatest power of ten that is a finite floating-point number. -/
def greatestPower : Nat := 308

/-- Multiplies by a power of ten, in one step if that is a floating-point number.  Small numbers
take up to `steps` more; after three nothing is left of them.  There is no result if it would be
infinite. -/
def scale? : Nat → Float → Int → Option Float
  | steps, x, power =>
    let factor := Float.ofScientific 1 false (min power.natAbs greatestPower)
    if power.natAbs ≤ greatestPower then
      if power < 0 then some (x / factor)
      else if (x * factor).isInf then none
      else some (x * factor)
    else if x == 0 then some x
    else if 0 < power then none
    else
      match steps with
      | 0 => some 0
      | steps + 1 => scale? steps (x / factor) (power + greatestPower)

/-- A sign, a significand and a power of ten as a floating-point number. -/
def floatOf (negative : Bool) (significand : Nat) (power : Int) (rest : List Char) : Reading (Found × List Char) :=
  match scale? 3 (Float.ofNat significand) power with
  | some x => .ok (.number (if negative then -x else x), rest)
  | none => .error { cause := .numberOutOfRange, rest }

/-- Exponents are less than this. -/
def exponentBound : Nat := 0x80000000

/-- Takes digits into an exponent while there is room. -/
def takeExponent (n : Nat) : List Char → Nat × List Char
  | [] => (n, [])
  | c :: cs =>
    if isDigit c && n * 10 + digitValue c < exponentBound then
      takeExponent (n * 10 + digitValue c) cs
    else (n, c :: cs)

/-- Reads a number on behind its `e`. -/
def readExponent (negative : Bool) (significand : Nat) (power : Int) (cs : List Char) :
    Reading (Found × List Char) :=
  let (isMinus, cs) := match cs with
    | '+' :: cs => (false, cs)
    | '-' :: cs => (true, cs)
    | cs => (false, cs)
  match cs with
  | [] => .error (.endWithin .value)
  | c :: _ =>
    if !isDigit c then .error (.atNext .invalidNumber cs)
    else
      let (exponent, rest) := takeExponent 0 cs
      if startsWithDigit rest then
        if significand ≠ 0 && !isMinus then
          .error { cause := .numberOutOfRange, rest := rest.drop 1 }
        else .ok (.number (if negative then -0.0 else 0.0), skipDigits rest)
      else
        floatOf negative significand (if isMinus then power - exponent else power + exponent) rest

/-- Reads a number on where an exponent may begin. -/
def readScaled (negative : Bool) (significand : Nat) (power : Int) (cs : List Char) :
    Reading (Found × List Char) :=
  match cs with
  | 'e' :: rest | 'E' :: rest => readExponent negative significand power rest
  | rest => floatOf negative significand power rest

/-- Reads a number on behind its point. -/
def readFraction (negative : Bool) (significand : Nat) (power : Int) (cs : List Char) :
    Reading (Found × List Char) :=
  let (significand, taken, rest) := takeDigits significand 0 cs
  if startsWithDigit rest then readScaled negative significand (power - taken) (skipDigits rest)
  else if taken = 0 then
    if rest.isEmpty then .error (.endWithin .value) else .error (.atNext .invalidNumber rest)
  else readScaled negative significand (power - taken) rest

/-- Reads a number without its minus sign.  What has neither point nor exponent is an integer if
it fits into 64 bits. -/
def readNumber (negative : Bool) (cs : List Char) : Reading (Found × List Char) :=
  match cs with
  | [] => .error (.endWithin .value)
  | c :: cs =>
    if !isDigit c then .error (.atNext .invalidNumber (c :: cs))
    else if c = '0' && startsWithDigit cs then .error (.atNext .invalidNumber cs)
    else
      let (n, _, rest) := takeDigits (digitValue c) 0 cs
      let behind := skipDigits rest
      let power : Int := rest.length - behind.length
      match behind with
      | '.' :: behind => readFraction negative n power behind
      | 'e' :: behind | 'E' :: behind => readExponent negative n power behind
      | _ =>
        if power ≠ 0 then floatOf negative n power behind
        else if !negative then .ok (.integer n, behind)
        else if 0 < n && n ≤ 0x8000000000000000 then .ok (.integer (-n), behind)
        else .ok (.number (-(Float.ofNat n)), behind)

/-- Goes past a number behind its `e`. -/
def skipExponent (cs : List Char) : Reading (List Char) :=
  let cs := match cs with
    | '+' :: cs | '-' :: cs => cs
    | cs => cs
  if startsWithDigit cs then .ok (skipDigits cs) else .error (.atNext .invalidNumber cs)

/-- Goes past a number behind the digits before its point. -/
def skipFraction (cs : List Char) : Reading (List Char) :=
  match cs with
  | '.' :: cs =>
    if !startsWithDigit cs then .error (.atNext .invalidNumber cs)
    else
      match skipDigits cs with
      | 'e' :: rest | 'E' :: rest => skipExponent rest
      | rest => .ok rest
  | 'e' :: rest | 'E' :: rest => skipExponent rest
  | rest => .ok rest

/-- Goes past a number without its minus sign. -/
def skipNumber (cs : List Char) : Reading (List Char) :=
  match cs with
  | '0' :: cs =>
    if startsWithDigit cs then .error (.atNext .invalidNumber cs) else skipFraction cs
  | cs =>
    if startsWithDigit cs then skipFraction (skipDigits cs)
    else .error (.atNext .invalidNumber cs)

end Checkup.Json
