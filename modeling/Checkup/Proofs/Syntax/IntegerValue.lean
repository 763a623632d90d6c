import Checkup.Proofs.Program.Integers

/-!
# Which integers are rejected

The rule for integers looks at letters and zeros in the text of a literal.  It comes to this: long
integers are rejected, and decimal integers that begin with a zero without being zero.

* `fault?_eq_longSuffix_iff`, `fault?_eq_leadingZeros_iff`: when the rule reports what, for any
  text.
* `IntegerLiteral.suffix_eq_none_iff`, `IntegerLiteral.ofLiteral_text`: the suffix and the radix are
  those that the last and the first letters show, although digits may be letters too.
* `IntegerLiteral.led_iff`: the zeros that are counted are those of the number that is written.
* `integers_judged_by_value`: the rule for all texts that the grammar has for integers.
-/

namespace Checkup.Syntax

/-! ## The rule -/

namespace Integer

variable {cs : List Char}

theorem fault?_eq_longSuffix_iff {r : Radix} :
    fault? cs = some (.longSuffix r) ↔
      (cs.map Char.toLower).getLast? = some 'l' ∧ Radix.ofLiteral (cs.map Char.toLower) = r := by
  unfold fault?
  dsimp only
  generalize cs.map Char.toLower = lower
  split_ifs with long other
  · rw [Option.some.injEq, IntegerFault.longSuffix.injEq, and_iff_right long]
  · exact iff_of_false nofun fun h => long h.1
  · refine iff_of_false ?_ fun h => long h.1
    split
    · split_ifs <;> nofun
    · nofun

theorem fault?_eq_leadingZeros_iff :
    fault? cs = some .leadingZeros ↔
      (cs.map Char.toLower).getLast? ≠ some 'l' ∧ (cs.map Char.toLower).getLast? ≠ some 'j' ∧
      Radix.ofLiteral (cs.map Char.toLower) = .decimal ∧
      ∃ rest, (cs.map Char.toLower).filter (· ≠ '_') = '0' :: rest ∧ ∃ c ∈ rest, c ≠ '0' := by
  unfold fault?
  dsimp only
  generalize cs.map Char.toLower = lower
  split_ifs with long other
  · exact iff_of_false nofun fun h => h.1 long
  · simp only [Bool.or_eq_true, decide_eq_true_eq] at other
    refine iff_of_false nofun fun h => ?_
    rcases other with marked | imaginary
    · exact marked h.2.2.1
    · exact h.2.1 imaginary
  · simp only [Bool.or_eq_true, decide_eq_true_eq, not_or, not_not] at other
    rw [and_iff_right long, and_iff_right other.2, and_iff_right other.1]
    split
    · rename_i rest led
      simp only [led, List.cons.injEq, true_and, exists_eq_left', List.any_eq_true,
        decide_eq_true_eq, Option.ite_none_right_eq_some, and_true]
    · rename_i notLed
      refine iff_of_false nofun fun h => ?_
      obtain ⟨rest, led, _⟩ := h
      exact notLed rest led

end Integer

theorem IntegerFault.message_injective : Function.Injective IntegerFault.message := by
  intro a b same
  rcases a with r | _ <;> rcases b with s | _
  · cases r <;> cases s <;> first | rfl | exact absurd same (by decide)
  · cases r <;> exact absurd same (by decide)
  · cases s <;> exact absurd same (by decide)
  · rfl

/-! ## Letters in lower case -/

theorem toNat_toLower (c : Char) :
    c.toLower.toNat = if 65 ≤ c.toNat ∧ c.toNat ≤ 90 then c.toNat + 32 else c.toNat := by
  unfold Char.toLower
  split
  case isTrue upper =>
    have bounds : 65 ≤ c.toNat ∧ c.toNat ≤ 90 := by
      simpa [UInt32.le_iff_toNat_le] using upper
    rw [if_pos bounds]
    change (c.val + ('a'.val - 'A'.val)).toNat = c.toNat + 32
    rw [UInt32.toNat_add]
    change (c.toNat + 32) % 2 ^ 32 = c.toNat + 32
    omega
  case isFalse other =>
    rw [if_neg]
    simpa [UInt32.le_iff_toNat_le] using other

theorem toLower_eq_iff {c d : Char} (letter : 97 ≤ d.toNat) :
    c.toLower = d ↔ c = d ∨ c.toNat + 32 = d.toNat ∧ d.toNat ≤ 122 := by
  rw [← Char.toNat_inj, ← Char.toNat_inj, toNat_toLower]
  split <;> omega

namespace Radix

variable {r : Radix} {c : Char} {cs : List Char}

/-- Digits are no letters behind the sixth one. -/
theorem IsDigit.toNat_le (digit : r.IsDigit c) : c.toLower.toNat ≤ 102 := by
  rw [toNat_toLower]
  rw [isDigit_iff] at digit
  split <;> omega

theorem IsDigit.toNat_le_of_decimal (digit : decimal.IsDigit c) : c.toNat ≤ 57 := by
  rcases isDigit_iff.mp digit with number | ⟨other, _⟩
  · exact number.2.1
  · cases other

theorem IsDigit.toLower_of_decimal (digit : decimal.IsDigit c) : c.toLower = c := by
  have small := digit.toNat_le_of_decimal
  rw [← Char.toNat_inj, toNat_toLower]
  split <;> omega

theorem ofLiteral_eq_decimal (none : ∀ c ∈ cs, c ∉ ['x', 'o', 'b']) : ofLiteral cs = decimal := by
  unfold ofLiteral
  split
  case h_4 => rfl
  all_goals exact absurd (none _ (List.mem_cons_of_mem _ List.mem_cons_self)) (by decide)

theorem toLower_of_mem_suffixes (mem : c ∈ r.suffixes) : c.toLower = 'l' ∨ c.toLower = 'j' := by
  have letter : c ∈ decimal.suffixes := by
    cases r
    case decimal => exact mem
    all_goals exact List.mem_append_left ['j', 'J'] mem
  unfold suffixes at letter
  simp only [List.mem_cons, List.not_mem_nil, or_false] at letter
  rcases letter with rfl | rfl | rfl | rfl
  · exact .inl rfl
  · exact .inl rfl
  · exact .inr rfl
  · exact .inr rfl

end Radix

/-! ## Zeros -/

theorem ofDigits_eq_zero_iff {b : Nat} {ds : List Nat} (positive : 0 < b) :
    Nat.ofDigits b ds = 0 ↔ ∀ d ∈ ds, d = 0 := by
  constructor
  · exact Nat.digits_zero_of_eq_zero (Nat.ne_of_gt positive)
  · intro zeros
    rw [List.eq_replicate_of_mem zeros, Nat.ofDigits_replicate_zero]

namespace Radix

variable {r : Radix} {cs : List Char}

theorem head?_digits_iff (all : ∀ c ∈ cs, r.IsDigit c) :
    (cs.filterMap r.digit?).head? = some 0 ↔ cs.head? = some '0' := by
  cases cs with
  | nil => exact iff_of_false nofun nofun
  | cons c cs =>
      obtain ⟨d, digit⟩ := Option.isSome_iff_exists.mp (all c List.mem_cons_self)
      rw [List.filterMap_cons_some digit, List.head?_cons, List.head?_cons, ← digit,
        digit?_eq_zero_iff, Option.some.injEq]

theorem exists_digit_ne_zero_iff (all : ∀ c ∈ cs, r.IsDigit c) :
    (∃ d ∈ cs.filterMap r.digit?, d ≠ 0) ↔ ∃ c ∈ cs, c ≠ '0' := by
  constructor
  · intro h
    obtain ⟨d, mem, other⟩ := h
    obtain ⟨c, mem, digit⟩ := List.mem_filterMap.mp mem
    refine ⟨c, mem, fun zero => other ?_⟩
    exact Option.some.inj (digit.symm.trans (digit?_eq_zero_iff.mpr zero))
  · intro h
    obtain ⟨c, mem, other⟩ := h
    obtain ⟨d, digit⟩ := Option.isSome_iff_exists.mp (all c mem)
    refine ⟨d, List.mem_filterMap.mpr ⟨c, mem, digit⟩, fun zero => other ?_⟩
    exact digit?_eq_zero_iff.mp (zero ▸ digit)

/-- Digits with a zero in front are not all zeros exactly if the number is not zero. -/
theorem exists_led_iff (all : ∀ c ∈ cs, r.IsDigit c) :
    (∃ rest, cs = '0' :: rest ∧ ∃ c ∈ rest, c ≠ '0') ↔
      (cs.filterMap r.digit?).head? = some 0 ∧
        Nat.ofDigits r.base (cs.filterMap r.digit?).reverse ≠ 0 := by
  have notZero : Nat.ofDigits r.base (cs.filterMap r.digit?).reverse ≠ 0 ↔ ∃ c ∈ cs, c ≠ '0' := by
    rw [← exists_digit_ne_zero_iff all, ne_eq, ofDigits_eq_zero_iff r.base_pos]
    simp only [List.mem_reverse, not_forall, exists_prop, ne_eq]
  rw [head?_digits_iff all, notZero]
  constructor
  · intro h
    obtain ⟨rest, rfl, c, mem, other⟩ := h
    exact ⟨rfl, c, List.mem_cons_of_mem _ mem, other⟩
  · intro h
    obtain ⟨zero, c, mem, other⟩ := h
    obtain ⟨rest, rfl⟩ := List.head?_eq_some_iff.mp zero
    exact ⟨rest, rfl, c, (List.mem_cons.mp mem).resolve_left other, other⟩

end Radix

/-! ## Literals -/

namespace IntegerLiteral

/-- The literal is one of a long integer. -/
def IsLong (l : IntegerLiteral) : Prop :=
  l.text.getLast? = some 'L' ∨ l.text.getLast? = some 'l'

/-- The literal is one of an imaginary number. -/
def IsImaginary (l : IntegerLiteral) : Prop := l.suffix = some 'j' ∨ l.suffix = some 'J'

/-- A decimal number that is not zero begins with a zero. -/
def IsLed (l : IntegerLiteral) : Prop :=
  l.radix = .decimal ∧ l.suffix = none ∧ l.digits.head? = some 0 ∧ l.value ≠ 0

variable (l : IntegerLiteral)

theorem exists_getLast?_text :
    ∃ c, l.text.getLast? = some c ∧
      (l.suffix = some c ∨ l.suffix = none ∧ (l.radix.IsDigit c ∨ c = '_')) := by
  unfold text
  rw [List.getLast?_append, List.getLast?_append]
  cases suffix : l.suffix with
  | some c => exact ⟨c, rfl, .inl rfl⟩
  | none =>
      have nonempty : l.body ≠ [] := by
        intro nothing
        obtain ⟨c, _, outer⟩ := l.isBody.outer
        rw [nothing] at outer
        split at outer <;> cases outer
      refine ⟨l.body.getLast nonempty, ?_, .inr ⟨rfl, ?_⟩⟩
      · rw [List.getLast?_eq_some_getLast nonempty]
        rfl
      · exact l.isBody.each _ (List.getLast_mem nonempty)

theorem getLast?_lower_eq_iff :
    (l.text.map Char.toLower).getLast? = some 'l' ↔ l.IsLong := by
  have letter (c : Char) : c.toLower = 'l' ↔ c = 'L' ∨ c = 'l' := by
    rw [toLower_eq_iff (by decide), ← Char.toNat_inj, ← Char.toNat_inj]
    change _ ∨ _ + 32 = 108 ∧ 108 ≤ 122 ↔ _ = 76 ∨ _
    omega
  unfold IsLong
  rw [List.getLast?_map, Option.map_eq_some_iff]
  simp only [letter, and_or_left, exists_or, exists_eq_right]

/-- A literal without a suffix does not end like one with a suffix, although digits may be
letters. -/
theorem suffix_eq_none_iff :
    l.suffix = none ↔ (l.text.map Char.toLower).getLast? ≠ some 'l' ∧
      (l.text.map Char.toLower).getLast? ≠ some 'j' := by
  obtain ⟨c, last, suffix | ⟨none, digit | rfl⟩⟩ := l.exists_getLast?_text
  all_goals rw [List.getLast?_map, last, Option.map_some, ne_eq, ne_eq, Option.some.injEq,
    Option.some.injEq]
  · refine iff_of_false (by rw [suffix]; nofun) fun other => ?_
    rcases Radix.toLower_of_mem_suffixes (l.isSuffix c suffix) with long | imaginary
    · exact other.1 long
    · exact other.2 imaginary
  · have small := digit.toNat_le
    refine iff_of_true none ⟨fun same => ?_, fun same => ?_⟩
    all_goals
      rw [same] at small
      exact absurd small (by decide)
  · exact iff_of_true none (by decide)

theorem isLong_iff_suffix : l.IsLong ↔ l.suffix = some 'L' ∨ l.suffix = some 'l' := by
  unfold IsLong
  obtain ⟨c, last, suffix | ⟨none, digit | rfl⟩⟩ := l.exists_getLast?_text
  · rw [last, suffix]
  · rw [last, none]
    refine iff_of_false (fun same => ?_) (by nofun)
    have small := digit.toNat_le
    rcases same with same | same
    all_goals
      cases same
      exact absurd small (by decide)
  · rw [last, none]
    decide

theorem text_of_decimal (decimal : l.radix = .decimal) : l.text = l.body ++ l.suffix.toList := by
  have isMark := l.isMark
  rw [decimal] at isMark
  unfold text
  rw [List.mem_singleton.mp isMark, List.nil_append]

theorem ofLiteral_text : Radix.ofLiteral (l.text.map Char.toLower) = l.radix := by
  cases radix : l.radix
  case decimal =>
    apply Radix.ofLiteral_eq_decimal
    rw [l.text_of_decimal radix]
    intro c mem
    obtain ⟨d, inText, rfl⟩ := List.mem_map.mp mem
    rcases List.mem_append.mp inText with inBody | inSuffix
    · rcases l.isBody.each d inBody with digit | rfl
      · rw [radix] at digit
        have small := digit.toNat_le_of_decimal
        rw [digit.toLower_of_decimal]
        simp only [List.mem_cons, List.not_mem_nil, or_false, not_or]
        refine ⟨?_, ?_, ?_⟩
        all_goals
          intro same
          rw [same] at small
          exact absurd small (by decide)
      · decide
    · have isSuffix := l.isSuffix d (Option.mem_toList.mp inSuffix)
      rcases Radix.toLower_of_mem_suffixes isSuffix with long | imaginary
      · rw [long]
        decide
      · rw [imaginary]
        decide
  all_goals
    have isMark := l.isMark
    rw [radix] at isMark
    unfold text
    rcases List.mem_cons.mp isMark with mark | other
    · rw [mark]
      rfl
    · rw [List.mem_singleton.mp other]
      rfl

/-- The digits that are left without underscores are those of the number. -/
theorem led_iff (decimal : l.radix = .decimal) (none : l.suffix = none) :
    (∃ rest, (l.text.map Char.toLower).filter (· ≠ '_') = '0' :: rest ∧ ∃ c ∈ rest, c ≠ '0') ↔
      l.digits.head? = some 0 ∧ l.value ≠ 0 := by
  have text : l.text.map Char.toLower = l.body := by
    have lower : ∀ c ∈ l.body, c.toLower = c := by
      intro c mem
      rcases l.isBody.each c mem with digit | rfl
      · rw [decimal] at digit
        exact digit.toLower_of_decimal
      · rfl
    rw [l.text_of_decimal decimal, none, Option.toList_none, List.append_nil,
      List.map_congr_left lower, List.map_id']
  have digits : l.digits = (l.body.filter (· ≠ '_')).filterMap l.radix.digit? := by
    unfold IntegerLiteral.digits
    rw [List.filterMap_filter]
    apply List.filterMap_congr
    intro c _
    split
    case isTrue => rfl
    case isFalse underscore =>
      rw [decide_eq_true_eq, not_not] at underscore
      rw [underscore]
      exact Option.not_isSome_iff_eq_none.mp l.radix.not_isDigit_underscore
  have all : ∀ c ∈ l.body.filter (· ≠ '_'), l.radix.IsDigit c := by
    intro c mem
    obtain ⟨inBody, other⟩ := List.mem_filter.mp mem
    exact (l.isBody.each c inBody).resolve_right (of_decide_eq_true other)
  rw [text, Radix.exists_led_iff all, value, digits]

/-! ### What is reported -/

theorem fault?_eq_longSuffix_iff :
    Integer.fault? l.text = some (.longSuffix l.radix) ↔ l.IsLong := by
  rw [Integer.fault?_eq_longSuffix_iff, l.getLast?_lower_eq_iff, and_iff_left l.ofLiteral_text]

theorem fault?_eq_leadingZeros_iff : Integer.fault? l.text = some .leadingZeros ↔ l.IsLed := by
  rw [Integer.fault?_eq_leadingZeros_iff, ← and_assoc, ← l.suffix_eq_none_iff, l.ofLiteral_text]
  constructor
  · intro h
    obtain ⟨none, decimal, led⟩ := h
    exact ⟨decimal, none, (l.led_iff decimal none).mp led⟩
  · intro h
    obtain ⟨decimal, none, led⟩ := h
    exact ⟨none, decimal, (l.led_iff decimal none).mpr led⟩

theorem fault?_eq_none_iff : Integer.fault? l.text = none ↔ ¬ l.IsLong ∧ ¬ l.IsLed := by
  rw [← l.fault?_eq_leadingZeros_iff, ← l.getLast?_lower_eq_iff]
  cases found : Integer.fault? l.text with
  | none =>
      refine iff_of_true rfl ⟨fun long => ?_, nofun⟩
      have reported := Integer.fault?_eq_longSuffix_iff.mpr ⟨long, rfl⟩
      cases found.symm.trans reported
  | some fault =>
      refine iff_of_false nofun fun other => ?_
      cases fault with
      | longSuffix r => exact other.1 (Integer.fault?_eq_longSuffix_iff.mp found).1
      | leadingZeros => exact other.2 rfl

theorem not_isLong_of_isImaginary {l : IntegerLiteral} (imaginary : l.IsImaginary) :
    ¬ l.IsLong := by
  rw [isLong_iff_suffix]
  rcases imaginary with suffix | suffix
  · rw [suffix]
    decide
  · rw [suffix]
    decide

theorem not_isLed_of_isImaginary {l : IntegerLiteral} (imaginary : l.IsImaginary) :
    ¬ l.IsLed := by
  intro led
  rcases imaginary with suffix | suffix
  · cases suffix.symm.trans led.2.1
  · cases suffix.symm.trans led.2.1

end IntegerLiteral

/-- For every text that the grammar has for integers, the words that are reported are those for a
long integer of its radix exactly if the text ends in `L` or `l`, and those for leading zeros
exactly if the integer is decimal, has no suffix, begins with a zero and is not zero.  Nothing is
reported of the others.  These are all imaginary numbers, and those that are zero or not decimal,
unless they are long. -/
theorem integers_judged_by_value :
    ∃ pattern, Program.grammar.rules.lookup "integer" = some (.token { regex := pattern }) ∧
      (∀ cs, cs ∈ pattern.language ↔ ∃ l : IntegerLiteral, l.text = cs) ∧
      ∀ l : IntegerLiteral,
        let said := (Integer.fault? l.text).map IntegerFault.message
        (said = some ("invalid " ++ l.radix.name ++ " literal") ↔ l.IsLong) ∧
        (said = some ("leading zeros in decimal integer literals are not permitted; " ++
            "use an 0o prefix for octal integers") ↔ l.IsLed) ∧
        (said = none ↔ ¬ l.IsLong ∧ ¬ l.IsLed) ∧
        (l.IsImaginary ∨ (l.radix ≠ .decimal ∨ l.value = 0) ∧ ¬ l.IsLong → said = none) := by
  refine ⟨Program.integerRegex, integer_rule, fun cs => mem_integerRegex_iff, fun l => ?_⟩
  intro said
  have said_iff (fault : IntegerFault) :
      said = (some fault).map IntegerFault.message ↔ Integer.fault? l.text = some fault :=
    (Option.map_injective IntegerFault.message_injective).eq_iff
  have nothing : said = none ↔ ¬ l.IsLong ∧ ¬ l.IsLed :=
    Option.map_eq_none_iff.trans l.fault?_eq_none_iff
  refine ⟨(said_iff (.longSuffix l.radix)).trans l.fault?_eq_longSuffix_iff,
    (said_iff .leadingZeros).trans l.fault?_eq_leadingZeros_iff, nothing, fun h => ?_⟩
  rw [nothing]
  rcases h with imaginary | ⟨marked | zero, notLong⟩
  · exact ⟨IntegerLiteral.not_isLong_of_isImaginary imaginary,
      IntegerLiteral.not_isLed_of_isImaginary imaginary⟩
  · exact ⟨notLong, fun led => marked led.1⟩
  · exact ⟨notLong, fun led => led.2.2.2 zero⟩

/-- The literal `0_00_`. -/
def zeros : IntegerLiteral where
  radix := .decimal
  mark := []
  body := ['0', '_', '0', '0', '_']
  suffix := none
  isMark := by decide
  isBody := by decide
  isSuffix := nofun

/-- The literal `0_7J`. -/
def imaginarySeven : IntegerLiteral where
  radix := .decimal
  mark := []
  body := ['0', '_', '7']
  suffix := some 'J'
  isMark := by decide
  isBody := by decide
  isSuffix c same := by cases same; decide

theorem zeros_and_imaginary_accepted :
    (zeros.value = 0 ∧ ¬ zeros.IsLong ∧ Integer.fault? "0_00_".toList = none) ∧
    (imaginarySeven.IsImaginary ∧ imaginarySeven.value = 7 ∧
      Integer.fault? "0_7J".toList = none) := by
  have zero : zeros.value = 0 := by decide
  have notLong : ¬ zeros.IsLong := by
    unfold IntegerLiteral.IsLong
    decide
  have imaginary : imaginarySeven.IsImaginary := .inr rfl
  obtain ⟨_, _, _, judged⟩ := integers_judged_by_value
  have ofZeros := (judged zeros).2.2.2 (.inr ⟨.inr zero, notLong⟩)
  have ofSeven := (judged imaginarySeven).2.2.2 (.inl imaginary)
  exact ⟨⟨zero, notLong, Option.map_eq_none_iff.mp ofZeros⟩,
    imaginary, by decide, Option.map_eq_none_iff.mp ofSeven⟩

end Checkup.Syntax
