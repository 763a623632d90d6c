import Checkup.Proofs.Json.Grammar

/-!
# Reading the tokens of JSON

What the readers of blanks, strings and numbers do on texts that keep to the grammar: they go past
just these.

* `readString_text` and `skipString_text`: a string is read as what its text says.
* `skipNumber_text`: a number is gone past if what follows is no part of it.
-/

namespace Checkup.Json

/-! ## Blanks -/

theorem skipBlanks_gap {gap : List Char} (blanks : IsGap gap) (cs : List Char) :
    skipBlanks (gap ++ cs) = skipBlanks cs :=
  List.dropWhile_append_of_pos blanks

theorem skipBlanks_cons {c : Char} (solid : isBlank c = false) (cs : List Char) :
    skipBlanks (c :: cs) = c :: cs :=
  List.dropWhile_cons_of_neg (by simp [solid])

theorem skipBlanks_gap_cons {gap : List Char} (blanks : IsGap gap) {c : Char}
    (solid : isBlank c = false) (cs : List Char) : skipBlanks (gap ++ c :: cs) = c :: cs := by
  rw [skipBlanks_gap blanks, skipBlanks_cons solid]

theorem skipWord_text (word cs : List Char) : skipWord word (word ++ cs) = .ok cs := by
  induction word with
  | nil => rfl
  | cons e es ih => simpa only [List.cons_append, skipWord, if_true] using ih

/-! ## Strings -/

theorem hexEscape_text {digits : List Char} {n : Nat} (hex : IsHex digits n) (cs : List Char) :
    hexEscape (digits ++ cs) = .ok n := by
  cases hex with
  | of p q r s => simp [hexEscape, p, q, r, s]

theorem length_of_isHex {digits : List Char} {n : Nat} (hex : IsHex digits n) :
    digits.length = 4 := by
  cases hex
  rfl

theorem drop_hex {digits : List Char} {n : Nat} (hex : IsHex digits n) (cs : List Char) :
    (digits ++ cs).drop 4 = cs :=
  List.drop_left' (length_of_isHex hex)

/-- The code point of a character is no surrogate. -/
theorem not_surrogate (c : Char) :
    isLowSurrogate c.toNat = false ∧ isHighSurrogate c.toNat = false := by
  have valid : c.toNat < 0xd800 ∨ 0xdfff < c.toNat ∧ c.toNat < 0x110000 := c.valid
  simp only [isLowSurrogate, isHighSurrogate, Bool.and_eq_false_iff, decide_eq_false_iff_not]
  omega

theorem high_not_low {n : Nat} (high : isHighSurrogate n = true) : isLowSurrogate n = false := by
  simp only [isHighSurrogate, isLowSurrogate, Bool.and_eq_true, decide_eq_true_eq,
    Bool.and_eq_false_iff, decide_eq_false_iff_not] at high ⊢
  omega

theorem escape_text {c : Char} {e : List Char} (escaped : IsEscape c e) (cs : List Char) :
    escape (e ++ cs) = .ok (c, e.length) := by
  cases escaped with
  | @short e known =>
      have ne : e ≠ 'u' := fun same => by
        rw [same] at known
        cases known
      simp only [List.singleton_append, escape, if_neg ne, known]
      rfl
  | @unicode digits hex =>
      obtain ⟨notLow, notHigh⟩ := not_surrogate c
      simp only [List.cons_append, escape, if_true, unicodeEscape, bind, Except.bind,
        hexEscape_text hex, notLow, notHigh, Bool.false_eq_true, if_false, Bool.not_false,
        Char.ofNat_toNat, Except.map, List.length_cons, length_of_isHex hex]
  | @pair first second high low hex hex' isHigh isLow code =>
      simp only [List.cons_append, List.append_assoc, escape, if_true, unicodeEscape, bind,
        Except.bind, hexEscape_text hex, high_not_low isHigh, isHigh, Bool.false_eq_true, if_false,
        Bool.not_true, drop_hex hex, hexEscape_text hex', isLow, ofSurrogates, ← code,
        Char.ofNat_toNat, Except.map, List.length_cons, List.length_append, length_of_isHex hex,
        length_of_isHex hex']

theorem readStringFrom_append {n : Nat} : ∀ {done : List Char}, done.length = n →
    ∀ cs, readStringFrom n (done ++ cs) = readStringFrom 0 cs := by
  induction n with
  | zero => intro done length cs; rw [List.length_eq_zero_iff.mp length, List.nil_append]
  | succ n ih =>
      intro done length cs
      cases done with
      | nil => cases length
      | cons c done => exact ih (Nat.succ.inj length) cs

theorem readString_text {s t : List Char} (text : IsStringText s t) (cs : List Char) :
    readString (t ++ '"' :: cs) = .ok (s, cs) := by
  rw [readString]
  induction text with
  | nil => rfl
  | plain visible notQuote notSlash _ ih =>
      simp only [List.cons_append, readStringFrom, if_neg notQuote, if_neg notSlash,
        if_neg visible, ih, bind, Except.bind]
  | @escape c e s t escaped _ ih =>
      have split : '\\' :: e ++ t ++ '"' :: cs = '\\' :: (e ++ (t ++ '"' :: cs)) := by simp
      rw [split, readStringFrom, if_neg (by decide), if_pos rfl, escape_text escaped]
      simp only [bind, Except.bind, readStringFrom_append, ih]

theorem skipStringFrom_append {n : Nat} : ∀ {done : List Char}, done.length = n →
    ∀ cs, skipStringFrom n (done ++ cs) = skipStringFrom 0 cs := by
  induction n with
  | zero => intro done length cs; rw [List.length_eq_zero_iff.mp length, List.nil_append]
  | succ n ih =>
      intro done length cs
      cases done with
      | nil => cases length
      | cons c done => exact ih (Nat.succ.inj length) cs

theorem skipString_hex {digits : List Char} {n : Nat} (hex : IsHex digits n) (cs : List Char) :
    skipStringFrom 0 ('\\' :: 'u' :: digits ++ cs) = skipStringFrom 0 cs := by
  have behind : skipStringFrom 5 ('u' :: digits ++ cs) = skipStringFrom 0 cs :=
    skipStringFrom_append (by rw [List.length_cons, length_of_isHex hex]) cs
  rw [List.cons_append, skipStringFrom, if_neg (by decide), if_pos rfl]
  simpa only [List.cons_append, escapeLength, if_true, hexEscape_text hex, Except.map, bind,
    Except.bind] using behind

/-- An escape is gone past, in two steps if it is a surrogate pair. -/
theorem skipString_escape {c : Char} {e : List Char} (escaped : IsEscape c e) (cs : List Char) :
    skipStringFrom 0 ('\\' :: e ++ cs) = skipStringFrom 0 cs := by
  cases escaped with
  | @short e known =>
      have ne : e ≠ 'u' := fun same => by
        rw [same] at known
        cases known
      rw [List.cons_append, skipStringFrom, if_neg (by decide), if_pos rfl]
      simp only [List.singleton_append, escapeLength, if_neg ne, known, Option.isSome_some, if_true,
        bind, Except.bind, skipStringFrom]
  | unicode hex => exact skipString_hex hex cs
  | @pair first second _ _ hex hex' =>
      have split : '\\' :: ('u' :: first ++ '\\' :: 'u' :: second) ++ cs =
          '\\' :: 'u' :: first ++ ('\\' :: 'u' :: second ++ cs) := by simp
      rw [split, skipString_hex hex, skipString_hex hex']

theorem skipString_text {s t : List Char} (text : IsStringText s t) (cs : List Char) :
    skipString (t ++ '"' :: cs) = .ok cs := by
  rw [skipString]
  induction text with
  | nil => rfl
  | plain visible notQuote notSlash _ ih =>
      simp only [List.cons_append, skipStringFrom, if_neg notQuote, if_neg notSlash,
        if_neg visible, ih]
  | escape escaped _ ih => rw [List.append_assoc, skipString_escape escaped, ih]

/-! ## Numbers -/

/-- What a number ends before: a text that does not go on with a part of one. -/
def Stops : List Char → Prop
  | [] => True
  | c :: _ => isDigit c = false ∧ c ≠ '.' ∧ c ≠ 'e' ∧ c ≠ 'E'

variable {cs rest : List Char}

theorem Stops.noDigit (stops : Stops rest) : startsWithDigit rest = false := by
  cases rest with
  | nil => rfl
  | cons c rest => exact stops.1

theorem startsWithDigit_append (digits : IsDigits cs) (rest : List Char) :
    startsWithDigit (cs ++ rest) = true := by
  cases cs with
  | nil => exact absurd rfl digits.1
  | cons c cs => exact digits.2 c List.mem_cons_self

theorem skipDigits_append (digits : ∀ c ∈ cs, isDigit c = true)
    (noDigit : startsWithDigit rest = false) : skipDigits (cs ++ rest) = rest := by
  rw [skipDigits, List.dropWhile_append_of_pos digits]
  cases rest with
  | nil => rfl
  | cons c rest => exact List.dropWhile_cons_of_neg (Bool.eq_false_iff.mp noDigit)

theorem skipExponent_text {sign : List Char} (signs : sign = [] ∨ sign = ['+'] ∨ sign = ['-'])
    (digits : IsDigits cs) (noDigit : startsWithDigit rest = false) :
    skipExponent (sign ++ (cs ++ rest)) = .ok rest := by
  have behind : (if startsWithDigit (cs ++ rest) then .ok (skipDigits (cs ++ rest)) else
      .error (.atNext .invalidNumber (cs ++ rest)) : Reading (List Char)) = .ok rest := by
    rw [if_pos (startsWithDigit_append digits rest), skipDigits_append digits.2 noDigit]
  rcases signs with rfl | rfl | rfl
  · rcases cs with _ | ⟨c, cs⟩
    · exact absurd rfl digits.1
    · have digit : isDigit c = true := digits.2 c List.mem_cons_self
      have ne : c ≠ '+' ∧ c ≠ '-' := by
        constructor <;> intro same <;> rw [same] at digit <;> cases digit
      simp only [List.nil_append, List.cons_append, skipExponent] at behind ⊢
      split
      case h_1 same => exact absurd (List.cons.inj same).1 ne.1
      case h_2 same => exact absurd (List.cons.inj same).1 ne.2
      case h_3 => exact behind
  · exact behind
  · exact behind

/-- Digits behind a point make no difference to what is gone past behind them. -/
theorem skipFraction_point (digits : IsDigits cs) (noDigit : startsWithDigit rest = false)
    (noPoint : rest.head? ≠ some '.') :
    skipFraction ('.' :: (cs ++ rest)) = skipFraction rest := by
  simp only [skipFraction, startsWithDigit_append digits, Bool.not_true, Bool.false_eq_true,
    if_false, skipDigits_append digits.2 noDigit]
  split
  case h_1 => rfl
  case h_2 => rfl
  case h_3 notE notE' =>
    split
    case h_1 => exact absurd rfl noPoint
    case h_2 => exact absurd rfl (notE _)
    case h_3 => exact absurd rfl (notE' _)
    case h_4 => rfl

theorem skipFraction_power {power : List Char} (isPower : IsPower power) (stops : Stops rest) :
    skipFraction (power ++ rest) = .ok rest := by
  cases isPower with
  | none =>
      rcases rest with _ | ⟨c, rest⟩
      · rfl
      · obtain ⟨-, notPoint, notE, notE'⟩ := stops
        rw [List.nil_append]
        unfold skipFraction
        split
        case h_1 same => exact absurd (List.cons.inj same).1 notPoint
        case h_2 same => exact absurd (List.cons.inj same).1 notE
        case h_3 same => exact absurd (List.cons.inj same).1 notE'
        case h_4 => rfl
  | @digits e sign cs isE signs digits =>
      have behind := skipExponent_text signs digits stops.noDigit
      rw [List.append_assoc, List.cons_append]
      rcases isE with rfl | rfl
      · exact behind
      · exact behind

/-- What stands behind the digits of a number is none of them and no point. -/
theorem power_begins {power : List Char} (isPower : IsPower power) (stops : Stops rest) :
    startsWithDigit (power ++ rest) = false ∧ (power ++ rest).head? ≠ some '.' := by
  cases isPower with
  | none =>
      refine ⟨stops.noDigit, ?_⟩
      rcases rest with _ | ⟨c, rest⟩
      · exact nofun
      · exact fun same => stops.2.1 (Option.some.inj same)
  | digits isE => rcases isE with rfl | rfl <;> exact ⟨rfl, by simp⟩

theorem skipFraction_text {fraction power : List Char} (isFraction : IsFraction fraction)
    (isPower : IsPower power) (stops : Stops rest) :
    skipFraction (fraction ++ (power ++ rest)) = .ok rest := by
  cases isFraction with
  | none => exact skipFraction_power isPower stops
  | digits digits =>
      obtain ⟨noDigit, noPoint⟩ := power_begins isPower stops
      rw [List.cons_append, skipFraction_point digits noDigit noPoint]
      exact skipFraction_power isPower stops

theorem startsWithDigit_fraction {fraction power : List Char} (isFraction : IsFraction fraction)
    (isPower : IsPower power) (stops : Stops rest) :
    startsWithDigit (fraction ++ (power ++ rest)) = false := by
  cases isFraction with
  | none => exact (power_begins isPower stops).1
  | digits => rfl

/-- A number is gone past, with its sign read before. -/
theorem skipNumber_text {whole fraction power : List Char} (isInteger : IsInteger whole)
    (isFraction : IsFraction fraction) (isPower : IsPower power) (stops : Stops rest) :
    skipNumber (whole ++ (fraction ++ (power ++ rest))) = .ok rest := by
  have behind := skipFraction_text isFraction isPower stops
  have noDigit := startsWithDigit_fraction isFraction isPower stops
  cases isInteger with
  | zero =>
      simp only [List.singleton_append, skipNumber, noDigit, Bool.false_eq_true, if_false]
      exact behind
  | @digits c cs notZero digits =>
      have more := startsWithDigit_append digits (fraction ++ (power ++ rest))
      have skipped := skipDigits_append digits.2 noDigit
      rw [List.cons_append] at more skipped ⊢
      unfold skipNumber
      split
      case h_1 same => exact absurd (List.cons.inj same).1 notZero
      case h_2 => rw [if_pos more, skipped, behind]

end Checkup.Json
