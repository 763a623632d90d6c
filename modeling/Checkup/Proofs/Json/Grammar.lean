import Checkup.Json.Scan

/-!
# The grammar of JSON

What a JSON text says, apart from any way of reading it: `Value` is what can be said, and `IsText`
holds of a value and each of its texts.

* `IsStringText` and `IsNumber` are for the parts that are not made of others.  Characters may be
  escaped in strings, and beyond the first plane by a surrogate pair; no escape stands for half of
  such a pair.
* `IsText` is for the pieces of a text: a value, or what stands behind the opening bracket of a list
  or an object that is not empty.
* `IsDocument` is for a whole text, with blanks around its value.
* `Value.HasDistinctNames`: no object has two members of one name.
-/

namespace Checkup.Json

/-! ## Strings -/

/-- Four hexadecimal digits and their number. -/
inductive IsHex : List Char → Nat → Prop
  | of {p q r s : Char} {a b c d : Nat} : hexValue? p = some a → hexValue? q = some b →
    hexValue? r = some c → hexValue? s = some d →
    IsHex [p, q, r, s] (((a * 16 + b) * 16 + c) * 16 + d)

/-- What may stand behind a backslash for a character. -/
inductive IsEscape : Char → List Char → Prop
  | short {c e : Char} : shortEscape? e = some c → IsEscape c [e]
  | unicode {c : Char} {digits : List Char} : IsHex digits c.toNat → IsEscape c ('u' :: digits)
  | pair {c : Char} {first second : List Char} {high low : Nat} : IsHex first high →
    IsHex second low → isHighSurrogate high = true → isLowSurrogate low = true →
    c.toNat = 0x10000 + (high - 0xd800) * 0x400 + (low - 0xdc00) →
    IsEscape c ('u' :: first ++ '\\' :: 'u' :: second)

/-- What stands between the quotation marks of a string. -/
inductive IsStringText : List Char → List Char → Prop
  | nil : IsStringText [] []
  | plain {c : Char} {s t : List Char} : ¬ c < ' ' → c ≠ '"' → c ≠ '\\' → IsStringText s t →
    IsStringText (c :: s) (c :: t)
  | escape {c : Char} {e s t : List Char} : IsEscape c e → IsStringText s t →
    IsStringText (c :: s) ('\\' :: e ++ t)

/-! ## Numbers -/

def IsDigits (cs : List Char) : Prop := cs ≠ [] ∧ ∀ c ∈ cs, isDigit c = true

/-- What stands before the point of a number: there is no zero before other digits. -/
inductive IsInteger : List Char → Prop
  | zero : IsInteger ['0']
  | digits {c : Char} {cs : List Char} : c ≠ '0' → IsDigits (c :: cs) → IsInteger (c :: cs)

/-- The point and the digits behind it, or nothing. -/
inductive IsFraction : List Char → Prop
  | none : IsFraction []
  | digits {cs : List Char} : IsDigits cs → IsFraction ('.' :: cs)

/-- The power of ten, or nothing. -/
inductive IsPower : List Char → Prop
  | none : IsPower []
  | digits {e : Char} {sign cs : List Char} : e = 'e' ∨ e = 'E' →
    sign = [] ∨ sign = ['+'] ∨ sign = ['-'] → IsDigits cs → IsPower (e :: sign ++ cs)

inductive IsNumber : List Char → Prop
  | of {sign whole fraction power : List Char} : sign = [] ∨ sign = ['-'] → IsInteger whole →
    IsFraction fraction → IsPower power → IsNumber (sign ++ whole ++ fraction ++ power)

/-! ## Values -/

/-- What a JSON text says.  Numbers are kept as they are written. -/
inductive Value where
  | null
  | boolean (b : Bool)
  | number (text : List Char)
  | string (s : List Char)
  | list (elements : List Value)
  | object (members : List (List Char × Value))

/-- Blanks and nothing else. -/
def IsGap (cs : List Char) : Prop := ∀ c ∈ cs, isBlank c = true

/-- A piece of a text: a value, or what stands from the first element or member on, with the closing
bracket. -/
inductive Piece where
  | value (v : Value)
  | elements (vs : List Value)
  | members (ms : List (List Char × Value))

/-- The texts of a piece. -/
inductive IsText : Piece → List Char → Prop
  | null : IsText (.value .null) ['n', 'u', 'l', 'l']
  | true : IsText (.value (.boolean true)) ['t', 'r', 'u', 'e']
  | false : IsText (.value (.boolean false)) ['f', 'a', 'l', 's', 'e']
  | number {n : List Char} : IsNumber n → IsText (.value (.number n)) n
  | string {s t : List Char} : IsStringText s t →
    IsText (.value (.string s)) ('"' :: t ++ ['"'])
  | emptyList {gap : List Char} : IsGap gap → IsText (.value (.list [])) ('[' :: gap ++ [']'])
  | list {vs : List Value} {t : List Char} : IsText (.elements vs) t →
    IsText (.value (.list vs)) ('[' :: t)
  | emptyObject {gap : List Char} : IsGap gap →
    IsText (.value (.object [])) ('\x7b' :: gap ++ ['\x7d'])
  | object {ms : List (List Char × Value)} {t : List Char} : IsText (.members ms) t →
    IsText (.value (.object ms)) ('\x7b' :: t)
  | lastElement {v : Value} {before t behind : List Char} : IsGap before → IsText (.value v) t →
    IsGap behind → IsText (.elements [v]) (before ++ t ++ behind ++ [']'])
  | element {v : Value} {vs : List Value} {before t behind rest : List Char} : IsGap before →
    IsText (.value v) t → IsGap behind → IsText (.elements vs) rest →
    IsText (.elements (v :: vs)) (before ++ t ++ behind ++ ',' :: rest)
  | lastMember {name : List Char} {v : Value} {indent key colon before t behind : List Char} :
    IsGap indent → IsStringText name key → IsGap colon → IsGap before → IsText (.value v) t →
    IsGap behind →
    IsText (.members [(name, v)])
      (indent ++ '"' :: key ++ '"' :: colon ++ ':' :: before ++ t ++ behind ++ ['\x7d'])
  | member {name : List Char} {v : Value} {ms : List (List Char × Value)}
    {indent key colon before t behind rest : List Char} :
    IsGap indent → IsStringText name key → IsGap colon → IsGap before → IsText (.value v) t →
    IsGap behind → IsText (.members ms) rest →
    IsText (.members ((name, v) :: ms))
      (indent ++ '"' :: key ++ '"' :: colon ++ ':' :: before ++ t ++ behind ++ ',' :: rest)

/-- A whole text and the value it says. -/
def IsDocument (v : Value) (body : List Char) : Prop :=
  ∃ before t behind, IsGap before ∧ IsText (.value v) t ∧ IsGap behind ∧
    body = before ++ t ++ behind

/-- No object has two members of one name. -/
inductive Value.HasDistinctNames : Value → Prop
  | null : HasDistinctNames .null
  | boolean (b : Bool) : HasDistinctNames (.boolean b)
  | number (n : List Char) : HasDistinctNames (.number n)
  | string (s : List Char) : HasDistinctNames (.string s)
  | list {vs : List Value} : (∀ v ∈ vs, v.HasDistinctNames) → HasDistinctNames (.list vs)
  | object {ms : List (List Char × Value)} : (ms.map Prod.fst).Nodup →
    (∀ m ∈ ms, m.2.HasDistinctNames) → HasDistinctNames (.object ms)

namespace Value.HasDistinctNames

theorem elements {vs : List Value} (distinct : (Value.list vs).HasDistinctNames) :
    ∀ v ∈ vs, v.HasDistinctNames := by
  cases distinct with
  | list each => exact each

theorem names {ms : List (List Char × Value)} (distinct : (Value.object ms).HasDistinctNames) :
    (ms.map Prod.fst).Nodup := by
  cases distinct with
  | object names => exact names

theorem members {ms : List (List Char × Value)} (distinct : (Value.object ms).HasDistinctNames) :
    ∀ m ∈ ms, m.2.HasDistinctNames := by
  cases distinct with
  | object _ each => exact each

end Value.HasDistinctNames

end Checkup.Json
