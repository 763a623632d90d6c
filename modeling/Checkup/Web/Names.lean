import Checkup.Web.Punycode

/-!
# Names in ASCII

A host is asked for by a name in ASCII.  Most names are in ASCII already; what the others come to,
and which of them are names at all, takes tables of all characters to say.  `Names` stands for such
tables, and `Names.common` is what they say of the most common letters.
-/

namespace Checkup.Web

/-- What names are in ASCII that have other characters in them or labels in Punycode; nothing for
what is no name. -/
abbrev Names := List Char → Option (List Char)

namespace Names

/-- What a label in Punycode begins with. -/
def punycodeMark : List Char := "xn--".toList

def isAscii (c : Char) : Bool := c.toNat < 0x80

/-- Whether a name is in ASCII, with no label in Punycode. -/
def isPlain (cs : List Char) : Bool :=
  cs.all isAscii &&
    (cs.splitOn '.').all fun label => !punycodeMark.isPrefixOf (label.map Char.toLower)

/-- A name in ASCII.  A plain one is written in lower case. -/
def toAscii? (names : Names) (cs : List Char) : Option (List Char) :=
  if isPlain cs then some (cs.map Char.toLower) else names cs

/-- The small letter for a capital one of the Latin, Greek and Cyrillic alphabets. -/
def small (c : Char) : Char :=
  let isIn (first last : Nat) : Bool := first ≤ c.toNat && c.toNat ≤ last
  if isIn 0xc0 0xd6 || isIn 0xd8 0xde || isIn 0x391 0x3a1 || isIn 0x3a3 0x3a9 ||
      isIn 0x410 0x42f then
    Char.ofNat (c.toNat + 32)
  else if isIn 0x400 0x40f then Char.ofNat (c.toNat + 80)
  else c.toLower

/-- Letters that stay as they are: small ones of the three alphabets, kana, Chinese characters and
the syllables of Hangul. -/
def isCommonLetter (c : Char) : Bool :=
  [(0xdf, 0xf6), (0xf8, 0xff), (0x3b1, 0x3c9), (0x430, 0x45f), (0x3041, 0x3096), (0x30a1, 0x30fa),
    (0x4e00, 0x9fa5), (0xac00, 0xd7a3)].any fun (first, last) => first ≤ c.toNat && c.toNat ≤ last

/-- A label of ASCII characters and common letters. -/
def commonLabel? (cs : List Char) : Option (List Char) :=
  let label := cs.map small
  if punycodeMark.isPrefixOf label then none
  else if label.all isAscii then some label
  else if label.all fun c => isAscii c || isCommonLetter c then
    some (punycodeMark ++ Punycode.encode label)
  else none

/-- Names of ASCII characters and common letters. -/
def common : Names := fun cs =>
  ((cs.splitOn '.').mapM commonLabel?).map (List.intercalate ['.'])

end Names

end Checkup.Web
