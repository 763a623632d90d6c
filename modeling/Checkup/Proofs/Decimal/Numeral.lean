import Checkup.Decimal.Layout
import Checkup.Proofs.Json.Grammar

/-!
# Floating-point numbers as numbers of JSON

Numbers are written as JSON has them: no zero stands before other digits, and there are digits on
both sides of a point.

* `toDigits_positive`: the digits of a positive number begin with one that is no zero.
* `ofBinary_positive`: the shortest decimal of a number other than zero is not zero.
* `Layout.isNumber_render`: what any layout writes is a number.
-/

namespace Checkup.Decimal

open Json (IsDigits IsInteger IsFraction IsPower IsNumber)

/-! ## Digits -/

theorem isDigits_toDigits (n : Nat) : IsDigits (Nat.toDigits 10 n) := by
  refine ⟨Nat.toDigits_ne_nil, fun c mem => ?_⟩
  have digit : c.isDigit = true := Nat.isDigit_of_mem_toDigits (by decide) (by decide) mem
  simpa [Char.isDigit, Json.isDigit, Char.le_def] using digit

theorem digitChar_ne_zero {n : Nat} (pos : 0 < n) (less : n < 10) : Nat.digitChar n ≠ '0' := by
  have all : ∀ k : Fin 10, 0 < k.val → Nat.digitChar k ≠ '0' := by decide
  exact all ⟨n, less⟩ pos

theorem toDigits_positive {n : Nat} (pos : 0 < n) :
    ∃ c cs, Nat.toDigits 10 n = c :: cs ∧ c ≠ '0' := by
  induction n using Nat.strongRecOn with
  | ind n ih =>
      by_cases less : n < 10
      · exact ⟨_, [], Nat.toDigits_of_lt_base less, digitChar_ne_zero pos less⟩
      · obtain ⟨c, cs, digits, ne⟩ := ih (n / 10) (by omega) (by omega)
        refine ⟨c, cs ++ [(n % 10).digitChar], ?_, ne⟩
        rw [Nat.toDigits_of_base_le (by decide) (by omega), digits, List.cons_append]

theorem isDigits_append {cs ds : List Char} (digits : IsDigits cs)
    (more : ∀ d ∈ ds, Json.isDigit d = true) : IsDigits (cs ++ ds) :=
  ⟨List.append_ne_nil_of_left_ne_nil digits.1 ds,
    List.forall_mem_append.mpr ⟨digits.2, more⟩⟩

theorem zeros_digits (n : Nat) : ∀ c ∈ List.replicate n '0', Json.isDigit c = true := by
  intro c mem
  rw [List.eq_of_mem_replicate mem]
  rfl

/-! ## The shortest decimal -/

section Shortest

variable {b : Binary} {a : Quantity} {k : Int} {d : Decimal}

theorem inUnits_pos {twos tens : Int} (pos : 0 < a.factor) : 0 < a.inUnits twos tens := by
  have ten : 0 < Nat.pow 10 (a.tens - tens).toNat := Nat.pow_pos (by decide)
  rw [Quantity.inUnits, Nat.shiftLeft_eq]
  exact Nat.mul_pos (Nat.mul_pos pos (Nat.two_pow_pos _)) ten

theorem inUnits_zero {twos tens : Int} (zero : a.factor = 0) : a.inUnits twos tens = 0 := by
  rw [Quantity.inUnits, zero, Nat.zero_shiftLeft, Nat.zero_mul]

/-- Zero does not read back as another number. -/
theorem factor_pos_of_readsBack (positive : 0 < b.significand) (back : b.readsBack a = true) :
    0 < a.factor := by
  apply Nat.pos_of_ne_zero
  intro zero
  have least : 0 < b.least.factor := by
    unfold Binary.least
    dsimp only
    split <;> omega
  have above : b.least.compare a = .gt := by
    unfold Quantity.compare
    dsimp only
    rw [inUnits_zero zero]
    exact Nat.compare_eq_gt.mpr (inUnits_pos least)
  rw [Binary.readsBack, above] at back
  cases back

theorem neighbourAt?_positive (positive : 0 < b.significand) (found : b.neighbourAt? k = some d) :
    d.digits ≠ 0 := by
  have below (back : b.readsBack (Decimal.value { digits := b.value.floorAt k, exponent := k })) :
      b.value.floorAt k ≠ 0 :=
    Nat.ne_of_gt (factor_pos_of_readsBack positive back)
  unfold Binary.neighbourAt? at found
  dsimp only at found
  split at found
  case h_1 back _ =>
    split at found
    · cases found
      exact below back
    · cases found
      exact Nat.succ_ne_zero _
    · split at found
      · cases found
        exact below back
      · cases found
        exact Nat.succ_ne_zero _
  case h_2 back _ =>
    cases found
    exact below back
  case h_3 =>
    cases found
    exact Nat.succ_ne_zero _
  case h_4 => cases found

theorem strip_positive {fuel : Nat} (positive : d.digits ≠ 0) : (d.strip fuel).digits ≠ 0 := by
  induction fuel generalizing d with
  | zero => exact positive
  | succ fuel ih =>
      unfold strip
      split
      case isTrue zero =>
        apply ih
        dsimp only
        omega
      case isFalse => exact positive

theorem ofBinary_positive (positive : 0 < b.significand) : 0 < (ofBinary b).digits := by
  apply Nat.pos_of_ne_zero
  unfold ofBinary
  apply strip_positive
  rcases found : (List.range mostDigits).findSome? fun more =>
      b.neighbourAt? (b.power - (more : Nat)) with _ | d
  · exact Nat.ne_of_gt positive
  · obtain ⟨more, -, here⟩ := List.exists_of_findSome?_eq_some found
    exact neighbourAt?_positive positive here

theorem significand_positive {x : Float} (finite : Binary.ofFloat? x = some b) :
    0 < b.significand := by
  unfold Binary.ofFloat? at finite
  dsimp only at finite
  split at finite
  · cases finite
  split at finite
  · split at finite
    · cases finite
    · cases finite
      dsimp only
      omega
  · cases finite
    dsimp only
    omega

end Shortest

/-! ## Layouts -/

namespace Layout

variable {c : Char} {cs : List Char}

/-- Digits that do not begin with zero have their point behind one digit at least, or behind a zero
of its own. -/
theorem withPoint_split (digits : IsDigits (c :: cs)) (ne : c ≠ '0') (whole : Int) :
    ∃ before behind, withPoint (c :: cs) whole = before ++ '.' :: behind ∧ IsInteger before ∧
      IsDigits behind := by
  unfold withPoint
  split
  case isTrue =>
    have behind : IsDigits (List.replicate (-whole).toNat '0' ++ c :: cs) :=
      ⟨List.append_ne_nil_of_right_ne_nil _ digits.1,
        List.forall_mem_append.mpr ⟨zeros_digits _, digits.2⟩⟩
    exact ⟨['0'], _, by simp, .zero, behind⟩
  case isFalse positive =>
    obtain ⟨n, places⟩ : ∃ n, whole.toNat = n + 1 := ⟨whole.toNat - 1, by omega⟩
    have padded : IsDigits (c :: cs ++ List.replicate (whole.toNat - (c :: cs).length) '0') :=
      isDigits_append digits (zeros_digits _)
    generalize List.replicate (whole.toNat - (c :: cs).length) '0' = zeros at padded ⊢
    refine ⟨(c :: cs ++ zeros).take whole.toNat, _, rfl, ?_, ?_⟩
    · rw [places, List.cons_append, List.take_succ_cons]
      refine .digits ne ⟨List.cons_ne_nil _ _, fun d mem => padded.2 d ?_⟩
      rw [← List.take_succ_cons, ← List.cons_append] at mem
      exact List.mem_of_mem_take mem
    · split
      case isTrue => exact ⟨List.cons_ne_nil _ _, List.forall_mem_singleton.mpr rfl⟩
      case isFalse some_digit =>
        refine ⟨fun none => some_digit (List.isEmpty_iff.mpr none), fun d mem => padded.2 d ?_⟩
        exact List.mem_of_mem_drop mem

theorem withExponent_split (layout : Layout) (digits : IsDigits (c :: cs)) (power : Int) :
    ∃ fraction exponent, layout.withExponent (c :: cs) power = [c] ++ fraction ++ exponent ∧
      IsFraction fraction ∧ IsPower exponent := by
  let sign := if power < 0 then ['-'] else if layout.hasPlus then ['+'] else []
  have signs : sign = [] ∨ sign = ['+'] ∨ sign = ['-'] := by
    dsimp only [sign]
    split
    · exact .inr (.inr rfl)
    split
    · exact .inr (.inl rfl)
    · exact .inl rfl
  have exponent : IsPower ('e' :: sign ++ Nat.toDigits 10 power.natAbs) :=
    .digits (.inl rfl) signs (isDigits_toDigits _)
  rcases cs with _ | ⟨d, cs⟩
  · exact ⟨[], _, by rw [withExponent, List.append_assoc]; rfl, .none, exponent⟩
  · have behind : IsDigits (d :: cs) :=
      ⟨List.cons_ne_nil _ _, (List.forall_mem_cons.mp digits.2).2⟩
    exact ⟨'.' :: d :: cs, _, by rw [withExponent, List.append_assoc]; rfl, .digits behind,
      exponent⟩

theorem isNumber_renderDecimal (layout : Layout) {d : Decimal} (positive : 0 < d.digits)
    {sign : List Char} (signs : sign = [] ∨ sign = ['-']) :
    IsNumber (sign ++ layout.renderDecimal d) := by
  have digits := isDigits_toDigits d.digits
  obtain ⟨c, cs, same, ne⟩ := toDigits_positive positive
  unfold renderDecimal
  rw [same] at digits ⊢
  dsimp only
  split
  case isTrue =>
    obtain ⟨before, behind, written, isInteger, isBehind⟩ := withPoint_split digits ne
      (d.exponent + ↑(c :: cs).length - 1 + 1)
    have number := IsNumber.of signs isInteger (.digits isBehind) .none
    rw [written]
    simpa using number
  case isFalse =>
    have whole : IsInteger [c] := .digits ne ⟨List.cons_ne_nil _ _,
      List.forall_mem_singleton.mpr (digits.2 c List.mem_cons_self)⟩
    obtain ⟨fraction, exponent, written, isFraction, isPower⟩ := layout.withExponent_split
      digits (d.exponent + ↑(c :: cs).length - 1)
    have number := IsNumber.of signs whole isFraction isPower
    rw [written]
    simpa using number

/-- Whatever the layout, a number is written as JSON has it. -/
theorem isNumber_render (layout : Layout) (x : Float) : IsNumber (layout.render x) := by
  have signs : (if x.toBits.toNat >>> 63 = 1 then ['-'] else []) = [] ∨
      (if x.toBits.toNat >>> 63 = 1 then ['-'] else []) = ['-'] := by
    split
    · exact .inr rfl
    · exact .inl rfl
  unfold render
  rcases finite : Binary.ofFloat? x with _ | b
  · have zero : IsDigits ['0'] := ⟨List.cons_ne_nil _ _, List.forall_mem_singleton.mpr rfl⟩
    have number := IsNumber.of signs .zero (.digits zero) .none
    rwa [List.append_nil, List.append_assoc] at number
  · exact layout.isNumber_renderDecimal (ofBinary_positive (significand_positive finite)) signs

end Layout

end Checkup.Decimal
