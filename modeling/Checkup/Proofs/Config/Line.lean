import Checkup.Config.Properties
import Checkup.Proofs.Text.Trim

/-!
# What a line of properties says

A line says nothing, or gives a key a value, or is malformed.  The three are told apart by how the
line is written, whatever blanks stand around its parts.

* `parseLine_separator` and `parseLine_of_not_mem`: what is read from a line with an equals sign,
  and from one without.
* `parseLine_eq_none_iff`, `parseLine_eq_some_iff` and `parseLine_eq_error_iff`: reading a line
  finds out which of the three it is.
-/

namespace Checkup.Config

variable {line key value before behind : List Char} {fault : LineFault}

/-- A blank line or a comment. -/
def IsSkipped (line : List Char) : Prop :=
  Text.trim line = [] ∨ (Text.trim line).head? = some '#'

instance (line : List Char) : Decidable (IsSkipped line) :=
  inferInstanceAs (Decidable (_ ∨ _))

/-- A line gives a key a value: besides blanks, they are what stands before its first equals sign
and what stands behind. -/
def Gives (line key value : List Char) : Prop :=
  ∃ before behind, line = before ++ '=' :: behind ∧ '=' ∉ before ∧ Text.trim before = key ∧
    Text.trim behind = value ∧ key ≠ [] ∧ key.head? ≠ some '#'

/-- A line that is not skipped has no equals sign, or nothing but blanks before the first one. -/
inductive IsMalformed (line : List Char) : LineFault → Prop
  | noSeparator : ¬ IsSkipped line → '=' ∉ line → IsMalformed line (.noSeparator (Text.trim line))
  | noKey {before behind : List Char} : line = before ++ '=' :: behind → Text.IsBlanks before →
    IsMalformed line .noKey

/-- A line is skipped, or has an equals sign behind more than blanks. -/
def IsWellFormed (line : List Char) : Prop :=
  IsSkipped line ∨
    ∃ before behind, line = before ++ '=' :: behind ∧ '=' ∉ before ∧ ¬ Text.IsBlanks before

/-! ## Reading a line -/

/-- A line is cut at its first equals sign. -/
theorem span_separator (none : '=' ∉ before) (behind : List Char) :
    (before ++ '=' :: behind).dropWhile (· ≠ '=') = '=' :: behind ∧
      (before ++ '=' :: behind).takeWhile (· ≠ '=') = before := by
  have others : ∀ c ∈ before, decide (c ≠ '=') = true := fun c mem => by
    simpa using ne_of_mem_of_not_mem mem none
  rw [List.dropWhile_append_of_pos others, List.takeWhile_append_of_pos others]
  simp

theorem separator_not_blanks {gap : List Char} (blanks : Text.IsBlanks gap) : '=' ∉ gap :=
  fun mem => absurd (blanks '=' mem) (by decide)

/-- A line with an equals sign is a comment if what stands before it is one. -/
theorem isSkipped_separator_iff :
    IsSkipped (before ++ '=' :: behind) ↔ (Text.trim before).head? = some '#' := by
  rw [IsSkipped, Text.trim_append_cons before (by decide), Text.head?_trim]
  cases Text.trimStart before <;> simp

/-- What is read from a line with an equals sign. -/
theorem parseLine_separator (apart : '=' ∉ before) (behind : List Char) :
    Properties.parseLine (before ++ '=' :: behind) =
      if (Text.trim before).head? = some '#' then .ok none
      else if Text.trim before = [] then .error .noKey
      else .ok (some (Text.trim before, Text.trim behind)) := by
  have trimmed : '=' ∉ Text.trimStart before := fun mem =>
    apart ((List.dropWhile_suffix _).subset mem)
  obtain ⟨dropped, taken⟩ := span_separator trimmed (Text.trimEnd behind)
  have skipped := @isSkipped_separator_iff before behind
  unfold IsSkipped at skipped
  unfold Properties.parseLine
  dsimp only
  simp only [Bool.or_eq_true, decide_eq_true_eq, skipped]
  rw [Text.trim_append_cons before (by decide), dropped, taken, Text.trim_trimStart]
  simp only [Text.trim_trimEnd]

/-- What is read from a line without an equals sign. -/
theorem parseLine_of_not_mem (apart : '=' ∉ line) :
    Properties.parseLine line =
      if IsSkipped line then .ok none else .error (.noSeparator (Text.trim line)) := by
  have dropped : (Text.trim line).dropWhile (· ≠ '=') = [] :=
    List.dropWhile_eq_nil_iff.mpr fun c mem => by
      simpa using ne_of_mem_of_not_mem (Text.mem_of_mem_trim mem) apart
  unfold Properties.parseLine
  dsimp only
  simp only [Bool.or_eq_true, decide_eq_true_eq, dropped]
  rfl

/-! ## What is found out -/

theorem parseLine_eq_none_iff : Properties.parseLine line = .ok none ↔ IsSkipped line := by
  by_cases mem : '=' ∈ line
  · rcases List.eq_append_cons_of_mem mem with ⟨before, behind, rfl, apart⟩
    rw [parseLine_separator apart, isSkipped_separator_iff]
    split
    case isTrue comment => exact iff_of_true rfl comment
    case isFalse other =>
      refine iff_of_false ?_ other
      split <;> exact nofun
  · rw [parseLine_of_not_mem mem]
    split
    case isTrue skipped => exact iff_of_true rfl skipped
    case isFalse other => exact iff_of_false nofun other

theorem parseLine_of_gives (gives : Gives line key value) :
    Properties.parseLine line = .ok (some (key, value)) := by
  rcases gives with ⟨before, behind, rfl, apart, rfl, rfl, some_key, no_comment⟩
  rw [parseLine_separator apart, if_neg no_comment, if_neg some_key]

theorem parseLine_eq_some_iff :
    Properties.parseLine line = .ok (some (key, value)) ↔ Gives line key value := by
  refine ⟨fun said => ?_, parseLine_of_gives⟩
  by_cases mem : '=' ∈ line
  · rcases List.eq_append_cons_of_mem mem with ⟨before, behind, rfl, apart⟩
    rw [parseLine_separator apart] at said
    split at said
    case isTrue => cases said
    case isFalse no_comment =>
      split at said
      case isTrue => cases said
      case isFalse some_key =>
        cases said
        exact ⟨before, behind, rfl, apart, rfl, rfl, some_key, no_comment⟩
  · rw [parseLine_of_not_mem mem] at said
    split at said <;> cases said

theorem parseLine_of_isMalformed (malformed : IsMalformed line fault) :
    Properties.parseLine line = .error fault := by
  cases malformed with
  | noSeparator other apart => rw [parseLine_of_not_mem apart, if_neg other]
  | noKey split blanks =>
      rw [split, parseLine_separator (separator_not_blanks blanks), Text.trim_of_blanks blanks]
      rfl

theorem parseLine_eq_error_iff :
    Properties.parseLine line = .error fault ↔ IsMalformed line fault := by
  refine ⟨fun said => ?_, parseLine_of_isMalformed⟩
  by_cases mem : '=' ∈ line
  · rcases List.eq_append_cons_of_mem mem with ⟨before, behind, rfl, apart⟩
    rw [parseLine_separator apart] at said
    split at said
    case isTrue => cases said
    case isFalse =>
      split at said
      case isTrue blank =>
        cases said
        exact .noKey rfl (Text.trim_eq_nil_iff.mp blank)
      case isFalse => cases said
  · rw [parseLine_of_not_mem mem] at said
    split at said
    case isTrue => cases said
    case isFalse other =>
      cases said
      exact .noSeparator other mem

theorem isWellFormed_iff : IsWellFormed line ↔ ∀ fault, ¬ IsMalformed line fault := by
  constructor
  · intro fine fault malformed
    have failed := parseLine_of_isMalformed malformed
    rcases fine with skipped | ⟨before, behind, rfl, apart, solid⟩
    · rw [parseLine_eq_none_iff.mpr skipped] at failed
      cases failed
    · rw [parseLine_separator apart, if_neg (mt Text.trim_eq_nil_iff.mp solid)] at failed
      split at failed <;> cases failed
  · intro fine
    by_cases skipped : IsSkipped line
    · exact .inl skipped
    right
    by_cases mem : '=' ∈ line
    · rcases List.eq_append_cons_of_mem mem with ⟨before, behind, split, apart⟩
      exact ⟨before, behind, split, apart, fun blanks => fine _ (.noKey split blanks)⟩
    · exact (fine _ (.noSeparator skipped mem)).elim

end Checkup.Config
