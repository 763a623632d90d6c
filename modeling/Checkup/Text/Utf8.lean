/-!
# UTF-8

`encode` writes a text as bytes.  `decode` reads bytes as characters and as invalid parts, where an
invalid part is as long as it could have begun a character, or else one byte.  From it come
`decode?`, which takes valid bytes only, and `decodeLossy`, which puts a replacement character for
each invalid part.
-/

namespace Checkup.Text.Utf8

/-- The bytes of a character. -/
def encodeChar (c : Char) : List UInt8 :=
  let n := c.toNat
  let continuation (n : Nat) : UInt8 := UInt8.ofNat (0x80 + n % 0x40)
  if n < 0x80 then [UInt8.ofNat n]
  else if n < 0x800 then [UInt8.ofNat (0xc0 + n / 0x40), continuation n]
  else if n < 0x10000 then
    [UInt8.ofNat (0xe0 + n / 0x1000), continuation (n / 0x40), continuation n]
  else
    [UInt8.ofNat (0xf0 + n / 0x40000), continuation (n / 0x1000), continuation (n / 0x40),
      continuation n]

def encode (cs : List Char) : List UInt8 := cs.flatMap encodeChar

/-- A character that has begun: the bits seen so far, how many bytes are to come, and the least and
the greatest that the next of them may be. -/
structure Begun where
  bits : Nat
  owed : Nat
  least : UInt8 := 0x80
  greatest : UInt8 := 0xbf
deriving BEq, DecidableEq, Inhabited

/-- What a first byte of several begins.  The ranges leave out characters that have shorter forms,
surrogates, and numbers beyond the last code point. -/
def Begun.ofFirst? (b : UInt8) : Option Begun :=
  if b < 0xc2 then none
  else if b < 0xe0 then some { bits := b.toNat - 0xc0, owed := 1 }
  else if b = 0xe0 then some { bits := 0, owed := 2, least := 0xa0 }
  else if b = 0xed then some { bits := 0xd, owed := 2, greatest := 0x9f }
  else if b < 0xf0 then some { bits := b.toNat - 0xe0, owed := 2 }
  else if b = 0xf0 then some { bits := 0, owed := 3, least := 0x90 }
  else if b < 0xf4 then some { bits := b.toNat - 0xf0, owed := 3 }
  else if b = 0xf4 then some { bits := 4, owed := 3, greatest := 0x8f }
  else none

/-- Reads on behind a character that has begun.  What stands for an invalid part is `none`. -/
def decodeFrom : Option Begun → List UInt8 → List (Option Char)
  | none, [] => []
  | some _, [] => [none]
  | none, b :: bs =>
    if b < 0x80 then some (Char.ofNat b.toNat) :: decodeFrom none bs
    else
      match Begun.ofFirst? b with
      | some begun => decodeFrom (some begun) bs
      | none => none :: decodeFrom none bs
  | some begun, b :: bs =>
    if begun.least ≤ b && b ≤ begun.greatest then
      let bits := begun.bits * 64 + (b.toNat - 0x80)
      if begun.owed ≤ 1 then some (Char.ofNat bits) :: decodeFrom none bs
      else decodeFrom (some { bits, owed := begun.owed - 1 }) bs
    else if b < 0x80 then none :: some (Char.ofNat b.toNat) :: decodeFrom none bs
    else
      match Begun.ofFirst? b with
      | some begun => none :: decodeFrom (some begun) bs
      | none => none :: none :: decodeFrom none bs

def decode (bs : List UInt8) : List (Option Char) := decodeFrom none bs

/-- The text, if all bytes are valid. -/
def decode? (bs : List UInt8) : Option (List Char) := (decode bs).mapM id

/-- What stands for an invalid part. -/
def replacement : Char := '\ufffd'

def decodeLossy (bs : List UInt8) : List Char := (decode bs).map (·.getD replacement)

end Checkup.Text.Utf8
