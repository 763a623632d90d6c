import Mathlib.Data.List.DropRight
import Checkup.Json.Read
import Checkup.Proofs.Json.Tokens

/-!
# Going past values

Values that do not matter are gone past, however deep they are.

* `Value.Begins`: the first character of a text tells what kind of value it is.
* `skip_text` is the induction over the grammar, for values and for what stands inside of lists and
  objects.  It needs a bound for the recursion that is greater than the length of the text.
* `skipValue_text` is what it says of values.
-/

namespace Checkup.Json

variable {v : Value} {c : Char} {t gap rest : List Char}

/-! ## The beginning of a text -/

/-- The characters that the texts of a value begin with. -/
def Value.Begins : Value → Char → Prop
  | null, c => c = 'n'
  | boolean b, c => c = if b then 't' else 'f'
  | number _, c => c = '-' ∨ isDigit c = true
  | string _, c => c = '"'
  | list _, c => c = '['
  | object _, c => c = '\x7b'

theorem number_begins (number : IsNumber t) :
    ∃ c t', t = c :: t' ∧ (c = '-' ∨ isDigit c = true) := by
  cases number with
  | @of _ whole fraction power signs isInteger =>
      rcases signs with rfl | rfl
      · cases isInteger with
        | zero => exact ⟨_, _, rfl, .inr rfl⟩
        | digits _ digits => exact ⟨_, _, rfl, .inr (digits.2 _ List.mem_cons_self)⟩
      · exact ⟨_, _, rfl, .inl rfl⟩

theorem text_begins (text : IsText (.value v) t) : ∃ c t', t = c :: t' ∧ v.Begins c := by
  cases text with
  | number number => exact number_begins number
  | _ => exact ⟨_, _, rfl, rfl⟩

theorem ne_of_isDigit {d : Char} (digit : isDigit c = true) (other : isDigit d = false) :
    c ≠ d := by
  intro same
  rw [same, other] at digit
  cases digit

theorem isBlank_of_isDigit (digit : isDigit c = true) : isBlank c = false := by
  have space : c ≠ ' ' := ne_of_isDigit digit rfl
  have feed : c ≠ '\n' := ne_of_isDigit digit rfl
  have tab : c ≠ '\t' := ne_of_isDigit digit rfl
  have ret : c ≠ '\r' := ne_of_isDigit digit rfl
  simp [isBlank, space, feed, tab, ret]

theorem Value.Begins.solid (begins : v.Begins c) : isBlank c = false ∧ c ≠ ']' := by
  cases v with
  | number =>
      rcases begins with rfl | digit
      · decide
      · exact ⟨isBlank_of_isDigit digit, ne_of_isDigit digit rfl⟩
  | boolean b => cases b <;> rw [begins] <;> decide
  | _ => rw [begins]; decide

/-! ## Blanks before a value -/

theorem skipBlanks_skipBlanks (cs : List Char) : skipBlanks (skipBlanks cs) = skipBlanks cs :=
  List.dropWhile_idempotent isBlank cs

theorem skipValue_gap (blanks : IsGap gap) (bound : Nat) (cs : List Char) :
    skipValue bound (gap ++ cs) = skipValue bound cs := by
  cases bound with
  | zero => rfl
  | succ bound => rw [skipValue, skipBlanks_gap blanks, skipValue]

theorem skipValue_skipBlanks (bound : Nat) (cs : List Char) :
    skipValue bound (skipBlanks cs) = skipValue bound cs := by
  cases bound with
  | zero => rfl
  | succ bound => rw [skipValue, skipBlanks_skipBlanks, skipValue]

theorem skipKey_skipBlanks (cs : List Char) : skipKey (skipBlanks cs) = skipKey cs := by
  rw [skipKey, skipBlanks_skipBlanks, skipKey]

/-! ## Numbers and words -/

theorem skipValue_number {bound : Nat} (number : IsNumber t) (stops : Stops rest) :
    skipValue (bound + 1) (t ++ rest) = .ok rest := by
  cases number with
  | @of sign whole fraction power signs isInteger isFraction isPower =>
      have behind := skipNumber_text isInteger isFraction isPower stops
      simp only [List.append_assoc]
      rcases signs with rfl | rfl
      · -- without a sign, the first digit is read again with the rest of the number
        have digit : ∃ c t', whole = c :: t' ∧ isDigit c = true := by
          cases isInteger with
          | zero => exact ⟨_, _, rfl, rfl⟩
          | digits _ digits => exact ⟨_, _, rfl, digits.2 _ List.mem_cons_self⟩
        obtain ⟨c, t', rfl, digit⟩ := digit
        have ne {d : Char} (other : isDigit d = false) := ne_of_isDigit digit other
        rw [List.nil_append, skipValue, List.cons_append,
          skipBlanks_cons (isBlank_of_isDigit digit)]
        dsimp only
        rw [if_neg (ne rfl), if_neg (ne rfl), if_neg (ne rfl), if_neg (ne rfl), if_neg (ne rfl),
          if_pos digit]
        exact behind
      · exact behind

/-! ## Lists and objects -/

variable {bound : Nat} {cs : List Char}

theorem skipValue_emptyList (blanks : IsGap gap) (rest : List Char) :
    skipValue (bound + 1) ('[' :: (gap ++ ']' :: rest)) = .ok rest := by
  rw [skipValue, skipBlanks_cons rfl]
  simp only [skipBlanks_gap_cons blanks (show isBlank ']' = false from rfl)]
  rfl

theorem skipValue_list (begins : skipBlanks cs = c :: rest) (opens : c ≠ ']') :
    skipValue (bound + 1) ('[' :: cs) = (do skipElements bound (← skipValue bound cs)) := by
  rw [skipValue, skipBlanks_cons rfl]
  dsimp only
  rw [if_neg (by decide), if_neg (by decide), if_neg (by decide), if_neg (by decide),
    if_neg (by decide), if_neg (by decide), if_pos rfl, begins]
  split
  case h_1 none => cases none
  case h_2 closed => exact absurd (List.cons.inj closed).1 opens
  case h_3 => rw [← begins, skipValue_skipBlanks]

theorem skipValue_emptyObject (blanks : IsGap gap) (rest : List Char) :
    skipValue (bound + 1) ('\x7b' :: (gap ++ '\x7d' :: rest)) = .ok rest := by
  rw [skipValue, skipBlanks_cons rfl]
  simp only [skipBlanks_gap_cons blanks (show isBlank '\x7d' = false from rfl)]
  rfl

theorem skipValue_object (begins : skipBlanks cs = '"' :: rest) :
    skipValue (bound + 1) ('\x7b' :: cs) =
      (do skipMembers bound (← skipValue bound (← skipKey cs))) := by
  rw [skipValue, skipBlanks_cons rfl]
  dsimp only
  rw [if_neg (by decide), if_neg (by decide), if_neg (by decide), if_neg (by decide),
    if_neg (by decide), if_neg (by decide), if_neg (by decide), if_pos rfl, begins]
  split
  case h_1 none => cases none
  case h_2 closed => exact absurd (List.cons.inj closed).1 (by decide)
  case h_3 => rw [← begins, skipKey_skipBlanks]

theorem skipElements_close (blanks : IsGap gap) (rest : List Char) :
    skipElements (bound + 1) (gap ++ ']' :: rest) = .ok rest := by
  rw [skipElements, skipBlanks_gap_cons blanks rfl]
  rfl

theorem skipElements_comma (blanks : IsGap gap) (cs : List Char) :
    skipElements (bound + 1) (gap ++ ',' :: cs) =
      (do skipElements bound (← skipValue bound cs)) := by
  rw [skipElements, skipBlanks_gap_cons blanks rfl]
  rfl

theorem skipMembers_close (blanks : IsGap gap) (rest : List Char) :
    skipMembers (bound + 1) (gap ++ '\x7d' :: rest) = .ok rest := by
  rw [skipMembers, skipBlanks_gap_cons blanks rfl]
  rfl

theorem skipMembers_comma (blanks : IsGap gap) (cs : List Char) :
    skipMembers (bound + 1) (gap ++ ',' :: cs) =
      (do skipMembers bound (← skipValue bound (← skipKey cs))) := by
  rw [skipMembers, skipBlanks_gap_cons blanks rfl]
  rfl

theorem skipColon_text (blanks : IsGap gap) (cs : List Char) :
    skipColon (gap ++ ':' :: cs) = .ok cs := by
  rw [skipColon, skipBlanks_gap_cons blanks rfl]
  rfl

theorem skipKey_text {indent key name colon : List Char} (isIndent : IsGap indent)
    (isKey : IsStringText name key) (isColon : IsGap colon) (cs : List Char) :
    skipKey (indent ++ '"' :: (key ++ '"' :: (colon ++ ':' :: cs))) = .ok cs := by
  rw [skipKey, skipBlanks_gap_cons isIndent rfl]
  simp only [if_true, skipString_text isKey, bind, Except.bind, skipColon_text isColon]

/-! ## Values -/

/-- A piece of a text is gone past, if the bound is greater than its length. -/
def Piece.IsSkipped : Piece → List Char → Prop
  | .value _, t => ∀ bound rest, t.length ≤ bound → Stops rest →
    skipValue (bound + 1) (t ++ rest) = .ok rest
  | .elements _, t => ∀ bound rest, t.length < bound →
    (do skipElements bound (← skipValue bound (t ++ rest))) = .ok rest
  | .members _, t => ∀ bound rest, t.length < bound →
    (do skipMembers bound (← skipValue bound (← skipKey (t ++ rest)))) = .ok rest

theorem stops_of_separator (blanks : IsGap gap) {c : Char}
    (separates : c = ',' ∨ c = ']' ∨ c = '\x7d') (cs : List Char) : Stops (gap ++ c :: cs) := by
  rcases gap with _ | ⟨d, gap⟩
  · rcases separates with rfl | rfl | rfl <;> exact ⟨by decide, by decide, by decide, by decide⟩
  · have blank : isBlank d = true := blanks d List.mem_cons_self
    simp only [isBlank, Bool.or_eq_true, decide_eq_true_eq] at blank
    rcases blank with ((rfl | rfl) | rfl) | rfl <;>
      exact ⟨by decide, by decide, by decide, by decide⟩

theorem elements_begin {vs : List Value} (text : IsText (.elements vs) t) (rest : List Char) :
    ∃ c cs, skipBlanks (t ++ rest) = c :: cs ∧ c ≠ ']' := by
  cases text with
  | lastElement before text =>
      obtain ⟨c, t', rfl, begins⟩ := text_begins text
      simp only [List.append_assoc, List.cons_append]
      exact ⟨c, _, skipBlanks_gap_cons before begins.solid.1 _, begins.solid.2⟩
  | element before text =>
      obtain ⟨c, t', rfl, begins⟩ := text_begins text
      simp only [List.append_assoc, List.cons_append]
      exact ⟨c, _, skipBlanks_gap_cons before begins.solid.1 _, begins.solid.2⟩

theorem members_begin {ms : List (List Char × Value)} (text : IsText (.members ms) t)
    (rest : List Char) : ∃ cs, skipBlanks (t ++ rest) = '"' :: cs := by
  cases text with
  | lastMember indent =>
      simp only [List.append_assoc, List.cons_append]
      exact ⟨_, skipBlanks_gap_cons indent rfl _⟩
  | member indent =>
      simp only [List.append_assoc, List.cons_append]
      exact ⟨_, skipBlanks_gap_cons indent rfl _⟩

theorem skip_text {piece : Piece} {t : List Char} (text : IsText piece t) : piece.IsSkipped t := by
  induction text with
  | null => exact fun bound rest _ _ => skipWord_text ['u', 'l', 'l'] rest
  | true => exact fun bound rest _ _ => skipWord_text ['r', 'u', 'e'] rest
  | false => exact fun bound rest _ _ => skipWord_text ['a', 'l', 's', 'e'] rest
  | number number => exact fun bound rest _ stops => skipValue_number number stops
  | string string =>
      intro bound rest _ _
      rw [List.append_assoc]
      exact skipString_text string rest
  | emptyList inner =>
      intro bound rest _ _
      rw [List.append_assoc]
      exact skipValue_emptyList inner rest
  | list elements ih =>
      intro bound rest le _
      obtain ⟨c, cs, begins, opens⟩ := elements_begin elements rest
      rw [List.cons_append, skipValue_list begins opens]
      exact ih bound rest le
  | emptyObject inner =>
      intro bound rest _ _
      rw [List.append_assoc]
      exact skipValue_emptyObject inner rest
  | object members ih =>
      intro bound rest le _
      obtain ⟨cs, begins⟩ := members_begin members rest
      rw [List.cons_append, skipValue_object begins]
      exact ih bound rest le
  | lastElement before text behind ih =>
      intro bound rest less
      simp only [List.length_append, List.length_cons] at less
      obtain ⟨bound, rfl⟩ := Nat.exists_eq_add_one_of_ne_zero (Nat.ne_zero_of_lt less)
      simp only [List.append_assoc, List.singleton_append, skipValue_gap before]
      rw [ih bound _ (by omega) (stops_of_separator behind (.inr (.inl rfl)) _)]
      exact skipElements_close behind rest
  | element before text behind others ih ihOthers =>
      intro bound rest less
      simp only [List.length_append, List.length_cons] at less
      obtain ⟨bound, rfl⟩ := Nat.exists_eq_add_one_of_ne_zero (Nat.ne_zero_of_lt less)
      simp only [List.append_assoc, List.cons_append, skipValue_gap before]
      rw [ih bound _ (by omega) (stops_of_separator behind (.inl rfl) _)]
      exact (skipElements_comma behind _).trans (ihOthers bound rest (by omega))
  | lastMember indent key colon before text behind ih =>
      intro bound rest less
      simp only [List.length_append, List.length_cons] at less
      obtain ⟨bound, rfl⟩ := Nat.exists_eq_add_one_of_ne_zero (Nat.ne_zero_of_lt less)
      simp only [List.append_assoc, List.cons_append, List.nil_append]
      rw [skipKey_text indent key colon]
      simp only [bind, Except.bind, skipValue_gap before]
      rw [ih bound _ (by omega) (stops_of_separator behind (.inr (.inr rfl)) _)]
      exact skipMembers_close behind rest
  | member indent key colon before text behind others ih ihOthers =>
      intro bound rest less
      simp only [List.length_append, List.length_cons] at less
      obtain ⟨bound, rfl⟩ := Nat.exists_eq_add_one_of_ne_zero (Nat.ne_zero_of_lt less)
      simp only [List.append_assoc, List.cons_append]
      rw [skipKey_text indent key colon]
      simp only [bind, Except.bind, skipValue_gap before]
      rw [ih bound _ (by omega) (stops_of_separator behind (.inl rfl) _)]
      exact (skipMembers_comma behind _).trans (ihOthers bound rest (by omega))

/-- A value is gone past, whatever it is, if the bound is greater than the length of its text. -/
theorem skipValue_text (text : IsText (.value v) t) (blanks : IsGap gap) (less : t.length < bound)
    (stops : Stops rest) : skipValue bound (gap ++ (t ++ rest)) = .ok rest := by
  obtain ⟨bound, rfl⟩ := Nat.exists_eq_add_one_of_ne_zero (Nat.ne_zero_of_lt less)
  rw [skipValue_gap blanks]
  exact skip_text text bound rest (Nat.le_of_lt_add_one less) stops

end Checkup.Json
