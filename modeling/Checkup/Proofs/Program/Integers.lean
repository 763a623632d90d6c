import Checkup.Json.Scan
import Checkup.Program.Grammar
import Checkup.Proofs.Lexing.Language
import Checkup.Syntax.Rule.Integer
import Mathlib.Data.List.Chain
import Mathlib.Data.List.Induction
import Mathlib.Data.Nat.Digits.Defs

/-!
# How integers are written

An integer begins with a mark for its radix, unless it is decimal, and may end with the suffix of a
long or an imaginary number.  Between them are digits of the radix with single underscores.

* `IsGrouped`: characters with single underscores, as the grammar groups them; `mem_groupsOf_iff`
  says that these are the texts of its pattern.
* `language_decimals`: decimal digits are grouped the same way, but read backwards.
* `IntegerLiteral`: an integer as it is written, with its number.
* `mem_integerRegex_iff`: these are the texts that the grammar has for integers.
-/

namespace Checkup

/-! ## Groups -/

namespace Program

open Lexing Lexing.Regex Computability

/-- Characters of a kind, with single underscores between them and before the first one. -/
structure IsGrouped (p : Char → Prop) (cs : List Char) : Prop where
  each : ∀ c ∈ cs, p c ∨ c = '_'
  single : cs.IsChain fun a b => ¬ (a = '_' ∧ b = '_')
  last : ∃ c, p c ∧ cs.getLast? = some c

namespace IsGrouped

variable {p : Char → Prop} {c : Char} {xs ys : List Char}

theorem singleton (isOne : p c) : IsGrouped p [c] where
  each := List.forall_mem_singleton.mpr (.inl isOne)
  single := .singleton c
  last := ⟨c, isOne, rfl⟩

theorem append (other : ¬ p '_') (hxs : IsGrouped p xs) (hys : IsGrouped p ys) :
    IsGrouped p (xs ++ ys) where
  each := by
    intro c mem
    rcases List.mem_append.mp mem with first | second
    · exact hxs.each c first
    · exact hys.each c second
  single := by
    obtain ⟨l, isOne, last⟩ := hxs.last
    refine List.isChain_append.mpr ⟨hxs.single, hys.single, ?_⟩
    intro a mem b _ both
    -- What comes first ends in no underscore.
    cases last.symm.trans mem
    exact other (both.1 ▸ isOne)
  last := by
    obtain ⟨l, isOne, last⟩ := hys.last
    exact ⟨l, isOne, by rw [List.getLast?_append, last, Option.some_or]⟩

theorem of_forall (other : ¬ p '_') (nonempty : xs ≠ []) (all : ∀ c ∈ xs, p c) :
    IsGrouped p xs := by
  induction xs with
  | nil => exact (nonempty rfl).elim
  | cons c xs ih =>
      have ⟨now, later⟩ := List.forall_mem_cons.mp all
      by_cases last : xs = []
      · subst last
        exact singleton now
      · exact (singleton now).append other (ih last later)

theorem cons_underscore (other : ¬ p '_') (isOne : p c) (h : IsGrouped p (c :: xs)) :
    IsGrouped p ('_' :: c :: xs) where
  each := List.forall_mem_cons.mpr ⟨.inr rfl, h.each⟩
  single := List.isChain_cons_cons.mpr ⟨fun both => other (both.2 ▸ isOne), h.single⟩
  last := by
    obtain ⟨l, isLast, last⟩ := h.last
    exact ⟨l, isLast, by rw [List.getLast?_cons_cons, last]⟩

/-- What stands behind a character is grouped as well, if anything stands there. -/
theorem tail (h : IsGrouped p (c :: xs)) (nonempty : xs ≠ []) : IsGrouped p xs where
  each := (List.forall_mem_cons.mp h.each).2
  single := h.single.tail
  last := by
    obtain ⟨l, isLast, last⟩ := h.last
    obtain ⟨d, ds, rfl⟩ := List.exists_cons_of_ne_nil nonempty
    exact ⟨l, isLast, by rwa [List.getLast?_cons_cons] at last⟩

end IsGrouped

variable {s : CharSet} {cs : List Char}

/-- One group: characters of a set, perhaps behind an underscore. -/
theorem mem_group_iff :
    cs ∈ (seq [opt (char '_'), plus (oneOf s)]).language ↔
      ∃ run, (cs = run ∨ cs = '_' :: run) ∧ run ≠ [] ∧ ∀ c ∈ run, s.contains c.toNat = true := by
  rw [mem_seq_cons_iff, language_seq_singleton]
  simp only [mem_opt_iff, mem_char_iff, mem_plus_oneOf_iff]
  constructor
  · intro h
    obtain ⟨front, run, rfl | rfl, isRun, rfl⟩ := h
    · exact ⟨run, .inr rfl, isRun⟩
    · exact ⟨run, .inl rfl, isRun⟩
  · intro h
    obtain ⟨run, rfl | rfl, isRun⟩ := h
    · exact ⟨[], cs, .inr rfl, isRun, rfl⟩
    · exact ⟨['_'], run, .inl rfl, isRun, rfl⟩

theorem mem_groupsOf_iff (other : ¬ s.contains '_'.toNat = true) :
    cs ∈ (groupsOf (oneOf s)).language ↔
      IsGrouped (fun c => s.contains c.toNat = true) cs := by
  unfold groupsOf
  constructor
  · have group : ∀ xs ∈ (seq [opt (char '_'), plus (oneOf s)]).language,
        IsGrouped (fun c => s.contains c.toNat = true) xs := by
      intro xs mem
      obtain ⟨run, rfl | rfl, nonempty, all⟩ := mem_group_iff.mp mem
      · exact .of_forall other nonempty all
      · obtain ⟨c, rest, rfl⟩ := List.exists_cons_of_ne_nil nonempty
        exact .cons_underscore other (all c List.mem_cons_self) (.of_forall other nonempty all)
    exact plus_induction group fun xs mem ys grouped => (group xs mem).append other grouped
  · intro grouped
    have alone {c : Char} (isIn : s.contains c.toNat = true) :
        [c] ≠ [] ∧ ∀ d ∈ [c], s.contains d.toNat = true :=
      ⟨List.cons_ne_nil c [], List.forall_mem_singleton.mpr isIn⟩
    -- Each character is taken as a group of its own, with the underscore before it.
    induction cs using List.twoStepInduction with
    | nil =>
        obtain ⟨c, _, last⟩ := grouped.last
        cases last
    | singleton c =>
        obtain ⟨d, isIn, last⟩ := grouped.last
        cases last
        exact mem_plus_of_mem (mem_group_iff.mpr ⟨[c], .inl rfl, alone isIn⟩)
    | cons_cons c d cs behindBoth behind =>
        have rest := grouped.tail (List.cons_ne_nil d cs)
        rcases grouped.each c List.mem_cons_self with isIn | rfl
        · exact append_mem_plus (mem_group_iff.mpr ⟨[c], .inl rfl, alone isIn⟩) (behind d rest)
        · have next : d ≠ '_' := fun same =>
            (List.isChain_cons_cons.mp grouped.single).1 ⟨rfl, same⟩
          have isIn := (rest.each d List.mem_cons_self).resolve_right next
          have group : ['_', d] ∈ (seq [opt (char '_'), plus (oneOf s)]).language :=
            mem_group_iff.mpr ⟨[d], .inr rfl, alone isIn⟩
          by_cases last : cs = []
          · subst last
            exact mem_plus_of_mem group
          · exact append_mem_plus group (behindBoth (rest.tail last))

/-- Decimal digits are grouped as other digits are, but read backwards. -/
theorem language_decimals : decimals.language = (groupsOf digits).language.reverse := by
  have run : (plus digits).language.reverse = (plus digits).language := by
    ext cs
    unfold digits anyOf
    rw [Language.mem_reverse, mem_plus_oneOf_iff, mem_plus_oneOf_iff]
    simp only [ne_eq, List.reverse_eq_nil_iff, List.mem_reverse]
  have underscore : (opt (char '_')).language.reverse = (opt (char '_')).language := by
    ext cs
    rw [Language.mem_reverse, mem_opt_iff, mem_opt_iff, mem_char_iff, mem_char_iff,
      List.reverse_eq_nil_iff, List.reverse_eq_iff, List.reverse_singleton]
  change (plus digits).language * ((opt (char '_')).language * 1) *
      ((plus digits).language * ((opt (char '_')).language * 1))∗ =
    ((opt (char '_')).language * ((plus digits).language * 1) *
      ((opt (char '_')).language * ((plus digits).language * 1))∗).reverse
  simp only [mul_one, Language.reverse_mul, Language.reverse_kstar, run, underscore,
    Language.mul_self_kstar_comm]

end Program

/-! ## Radices -/

namespace Syntax

namespace Radix

def base : Radix → Nat
  | decimal => 10
  | hexadecimal => 16
  | octal => 8
  | binary => 2

/-- The number that a digit stands for. -/
def digit? (r : Radix) (c : Char) : Option Nat := (Json.hexValue? c).filter (· < r.base)

def IsDigit (r : Radix) (c : Char) : Prop := (r.digit? c).isSome = true

instance (r : Radix) (c : Char) : Decidable (r.IsDigit c) := inferInstanceAs (Decidable (_ = _))

/-- What a number begins with that is written in the radix. -/
def marks : Radix → List (List Char)
  | decimal => [[]]
  | hexadecimal => [['0', 'x'], ['0', 'X']]
  | octal => [['0', 'o'], ['0', 'O']]
  | binary => [['0', 'b'], ['0', 'B']]

/-- The letters of which one may stand at the end. -/
def suffixes : Radix → List Char
  | decimal => ['L', 'l', 'j', 'J']
  | hexadecimal | octal | binary => ['L', 'l']

/-- Digits with single underscores between them.  Another one may stand behind the digits of a
decimal number, and before those of the others. -/
structure IsBody (r : Radix) (cs : List Char) : Prop where
  each : ∀ c ∈ cs, r.IsDigit c ∨ c = '_'
  single : cs.IsChain fun a b => ¬ (a = '_' ∧ b = '_')
  outer : ∃ c, r.IsDigit c ∧ (if r = .decimal then cs.head? else cs.getLast?) = some c

instance (r : Radix) (cs : List Char) : Decidable (r.IsBody cs) :=
  decidable_of_iff
    (cs.all (fun c => r.IsDigit c ∨ c = '_') = true ∧
      (cs.IsChain fun a b => ¬ (a = '_' ∧ b = '_')) ∧
      (if r = .decimal then cs.head? else cs.getLast?).any (fun c => r.IsDigit c) = true) <| by
    rw [List.all_eq_true, Option.any_eq_true]
    simp only [decide_eq_true_eq]
    constructor
    · intro h
      obtain ⟨each, single, c, outer, digit⟩ := h
      exact ⟨each, single, c, digit, outer⟩
    · intro body
      obtain ⟨each, single, c, digit, outer⟩ := body
      exact ⟨each, single, c, outer, digit⟩

/-- The digits of a radix in the grammar. -/
def charSet : Radix → CharSet
  | decimal => .ofChars "0123456789"
  | hexadecimal => .between '0' '9' ∪ .between 'a' 'f' ∪ .between 'A' 'F'
  | octal => .between '0' '7'
  | binary => .ofChars "01"

variable {r : Radix} {c : Char} {cs : List Char}

theorem hexValue?_eq_some_iff {d : Nat} :
    Json.hexValue? c = some d ↔ 48 ≤ c.toNat ∧ c.toNat ≤ 57 ∧ c.toNat = 48 + d ∨
      97 ≤ c.toNat ∧ c.toNat ≤ 102 ∧ c.toNat + 10 = 97 + d ∨
      65 ≤ c.toNat ∧ c.toNat ≤ 70 ∧ c.toNat + 10 = 65 + d := by
  have le_iff {a b : Char} : a ≤ b ↔ a.toNat ≤ b.toNat := Iff.rfl
  unfold Json.hexValue?
  simp only [Bool.and_eq_true, decide_eq_true_eq, le_iff, Char.reduceToNat]
  split
  · rw [Option.some.injEq]
    omega
  split
  · rw [Option.some.injEq]
    omega
  split
  · rw [Option.some.injEq]
    omega
  · refine iff_of_false nofun fun h => ?_
    omega

theorem digit?_eq_some_iff {d : Nat} :
    r.digit? c = some d ↔ Json.hexValue? c = some d ∧ d < r.base := by
  rw [digit?, Option.filter_eq_some_iff, decide_eq_true_eq]

theorem base_pos (r : Radix) : 0 < r.base := by cases r <;> decide

theorem digit?_eq_zero_iff : r.digit? c = some 0 ↔ c = '0' := by
  rw [digit?_eq_some_iff, and_iff_left r.base_pos, hexValue?_eq_some_iff, ← Char.toNat_inj]
  change _ ↔ c.toNat = 48
  omega

/-- The digits are the numerals below the base and, for hexadecimal numbers, six letters. -/
theorem isDigit_iff :
    r.IsDigit c ↔ 48 ≤ c.toNat ∧ c.toNat ≤ 57 ∧ c.toNat < 48 + r.base ∨
      r = .hexadecimal ∧ (97 ≤ c.toNat ∧ c.toNat ≤ 102 ∨ 65 ≤ c.toNat ∧ c.toNat ≤ 70) := by
  unfold IsDigit
  rw [Option.isSome_iff_exists]
  simp only [digit?_eq_some_iff, hexValue?_eq_some_iff]
  constructor
  · intro h
    obtain ⟨d, value, small⟩ := h
    cases r
    case hexadecimal =>
      rcases value with numeral | lower | upper
      · exact .inl (by omega)
      · exact .inr ⟨rfl, .inl ⟨lower.1, lower.2.1⟩⟩
      · exact .inr ⟨rfl, .inr ⟨upper.1, upper.2.1⟩⟩
    all_goals
      simp only [base] at small ⊢
      exact .inl (by omega)
  · intro h
    rcases h with numeral | ⟨rfl, lower | upper⟩
    · exact ⟨c.toNat - 48, by omega⟩
    · exact ⟨c.toNat - 87, by simp only [base]; omega⟩
    · exact ⟨c.toNat - 55, by simp only [base]; omega⟩

theorem contains_charSet : r.charSet.contains c.toNat = true ↔ r.IsDigit c := by
  have le_iff {a b : Char} : a ≤ b ↔ a.toNat ≤ b.toNat := Iff.rfl
  rw [isDigit_iff]
  unfold charSet base
  cases r
  case decimal | binary =>
    rw [CharSet.contains_ofChars]
    simp only [String.reduceToList, List.mem_cons, List.not_mem_nil, ← Char.toNat_inj,
      Char.reduceToNat, reduceCtorEq, false_and, or_false]
    omega
  case hexadecimal =>
    rw [CharSet.contains_union, CharSet.contains_union, CharSet.contains_between,
      CharSet.contains_between, CharSet.contains_between]
    simp only [le_iff, Char.reduceToNat, true_and]
    omega
  case octal =>
    rw [CharSet.contains_between]
    simp only [le_iff, Char.reduceToNat, reduceCtorEq, false_and, or_false]
    omega

theorem not_isDigit_underscore (r : Radix) : ¬ r.IsDigit '_' := by cases r <;> decide

theorem mem_groupsOf_charSet_iff :
    cs ∈ (Program.groupsOf (.oneOf r.charSet)).language ↔ Program.IsGrouped r.IsDigit cs := by
  have other : ¬ r.charSet.contains '_'.toNat = true :=
    mt contains_charSet.mp r.not_isDigit_underscore
  rw [Program.mem_groupsOf_iff other]
  simp only [contains_charSet]

theorem isBody_iff_of_ne (marked : r ≠ .decimal) :
    r.IsBody cs ↔ cs ∈ (Program.groupsOf (.oneOf r.charSet)).language := by
  rw [mem_groupsOf_charSet_iff]
  constructor
  · intro body
    exact ⟨body.each, body.single, by simpa only [if_neg marked] using body.outer⟩
  · intro grouped
    exact ⟨grouped.each, grouped.single, by simpa only [if_neg marked] using grouped.last⟩

theorem isBody_decimal_iff : decimal.IsBody cs ↔ cs ∈ Program.decimals.language := by
  have flipped : cs.reverse.IsChain (fun a b => ¬ (a = '_' ∧ b = '_')) ↔
      cs.IsChain fun a b => ¬ (a = '_' ∧ b = '_') := by
    rw [List.isChain_reverse]
    simp only [and_comm]
  have same : Program.digits = .oneOf decimal.charSet := rfl
  rw [Program.language_decimals, Language.mem_reverse, same, mem_groupsOf_charSet_iff]
  constructor
  · intro body
    refine ⟨?_, flipped.mpr body.single, ?_⟩
    · simpa only [List.mem_reverse] using body.each
    · simpa only [List.getLast?_reverse, if_pos] using body.outer
  · intro grouped
    refine ⟨?_, flipped.mp grouped.single, ?_⟩
    · simpa only [List.mem_reverse] using grouped.each
    · simpa only [List.getLast?_reverse, if_pos] using grouped.last

end Radix

/-! ## Literals -/

/-- An integer as it is written. -/
structure IntegerLiteral where
  radix : Radix
  mark : List Char
  body : List Char
  suffix : Option Char
  isMark : mark ∈ radix.marks
  isBody : radix.IsBody body
  isSuffix : ∀ c ∈ suffix, c ∈ radix.suffixes

namespace IntegerLiteral

def text (l : IntegerLiteral) : List Char := l.mark ++ (l.body ++ l.suffix.toList)

/-- The numbers that its digits stand for. -/
def digits (l : IntegerLiteral) : List Nat := l.body.filterMap l.radix.digit?

/-- The number that is written. -/
def value (l : IntegerLiteral) : Nat := Nat.ofDigits l.radix.base l.digits.reverse

end IntegerLiteral

namespace Radix

open Lexing.Regex Program

variable {r : Radix} {cs : List Char}

/-- A text is a mark, a body and perhaps a suffix. -/
def Writes (r : Radix) (cs : List Char) : Prop :=
  ∃ mark ∈ r.marks, ∃ body, r.IsBody body ∧
    ∃ suffix : Option Char, (∀ c ∈ suffix, c ∈ r.suffixes) ∧ mark ++ (body ++ suffix.toList) = cs

/-- The pattern of the grammar for integers with a mark. -/
def marked (r : Radix) (letters : String) : Lexing.Regex :=
  seq [char '0', anyOf letters, groupsOf (.oneOf r.charSet), longSuffix]

theorem mem_marked_iff {letters : String} (marked : r ≠ .decimal)
    (marks : r.marks = letters.toList.map (['0', ·])) (suffixes : r.suffixes = "Ll".toList) :
    cs ∈ (r.marked letters).language ↔ r.Writes cs := by
  unfold Radix.marked Writes longSuffix
  simp only [mem_seq_cons_iff, language_seq_singleton, mem_char_iff, mem_anyOf_iff,
    mem_opt_anyOf_iff, ← isBody_iff_of_ne marked, marks, suffixes, List.mem_map]
  constructor
  · intro h
    obtain ⟨_, _, rfl, ⟨_, _, ⟨c, letter, rfl⟩, ⟨body, _, isBody, ⟨suffix, isSuffix, rfl⟩, rfl⟩,
      rfl⟩, rfl⟩ := h
    exact ⟨['0', c], ⟨c, letter, rfl⟩, body, isBody, suffix, isSuffix, rfl⟩
  · intro h
    obtain ⟨_, ⟨c, letter, rfl⟩, body, isBody, suffix, isSuffix, rfl⟩ := h
    exact ⟨['0'], _, rfl, ⟨[c], _, ⟨c, letter, rfl⟩,
      ⟨body, _, isBody, ⟨suffix, isSuffix, rfl⟩, rfl⟩, rfl⟩, rfl⟩

/-- The pattern of the grammar for decimal integers. -/
def unmarked : Lexing.Regex := seq [decimals, .alt longSuffix imaginarySuffix]

theorem mem_unmarked_iff : cs ∈ unmarked.language ↔ decimal.Writes cs := by
  have suffixes : decimal.suffixes = "Ll".toList ++ "jJ".toList := rfl
  unfold unmarked Writes longSuffix imaginarySuffix marks
  simp only [mem_seq_cons_iff, language_seq_singleton, mem_alt_opt_anyOf_iff,
    ← isBody_decimal_iff, suffixes, List.mem_singleton, exists_eq_left, List.nil_append]
  constructor
  · intro h
    obtain ⟨body, _, isBody, ⟨suffix, isSuffix, rfl⟩, rfl⟩ := h
    exact ⟨body, isBody, suffix, isSuffix, rfl⟩
  · intro h
    obtain ⟨body, isBody, suffix, isSuffix, rfl⟩ := h
    exact ⟨body, _, isBody, ⟨suffix, isSuffix, rfl⟩, rfl⟩

end Radix

theorem integer_rule : Program.grammar.rules.lookup "integer" =
    some (.token { regex := Program.integerRegex }) := rfl

/-- The texts that the grammar has for integers are those that are made of a mark, a body and a
suffix in this way. -/
theorem mem_integerRegex_iff {cs : List Char} :
    cs ∈ Program.integerRegex.language ↔ ∃ l : IntegerLiteral, l.text = cs := by
  have patterns : Program.integerRegex =
      .alt (Radix.hexadecimal.marked "xX") (.alt (Radix.octal.marked "oO")
        (.alt (Radix.binary.marked "bB") Radix.unmarked)) := rfl
  have radices : cs ∈ Program.integerRegex.language ↔ ∃ r : Radix, r.Writes cs := by
    rw [patterns, Lexing.Regex.mem_alt_iff, Lexing.Regex.mem_alt_iff, Lexing.Regex.mem_alt_iff,
      Radix.mem_marked_iff (by decide) rfl rfl, Radix.mem_marked_iff (by decide) rfl rfl,
      Radix.mem_marked_iff (by decide) rfl rfl, Radix.mem_unmarked_iff]
    constructor
    · intro h
      rcases h with hex | oct | bin | dec
      · exact ⟨.hexadecimal, hex⟩
      · exact ⟨.octal, oct⟩
      · exact ⟨.binary, bin⟩
      · exact ⟨.decimal, dec⟩
    · intro h
      obtain ⟨r, writes⟩ := h
      cases r with
      | hexadecimal => exact .inl writes
      | octal => exact .inr (.inl writes)
      | binary => exact .inr (.inr (.inl writes))
      | decimal => exact .inr (.inr (.inr writes))
  rw [radices]
  constructor
  · intro h
    obtain ⟨radix, mark, isMark, body, isBody, suffix, isSuffix, rfl⟩ := h
    exact ⟨⟨radix, mark, body, suffix, isMark, isBody, isSuffix⟩, rfl⟩
  · intro h
    obtain ⟨⟨radix, mark, body, suffix, isMark, isBody, isSuffix⟩, rfl⟩ := h
    exact ⟨radix, mark, isMark, body, isBody, suffix, isSuffix, rfl⟩

end Syntax

end Checkup
