import Checkup.Proofs.Decimal.Numeral
import Checkup.Proofs.Json.Written
import Checkup.Proofs.Text.Reading

/-!
# What is written has no control characters

Strings keep their control characters behind escapes, so that a text is written in one line.

* `IsStringText.hasNoControls` and `IsNumber.hasNoControls`: the grammar leaves no room for control
  characters in strings and numbers.
* `hasNoControls_writeString`, `hasNoControls_writeNumber`, `hasNoControls_writeList` and
  `hasNoControls_writeObject`: there are none in what is written.
* `isText_writeNumber`: a floating-point number is written as a number or as null.
-/

namespace Checkup.Json

/-- Characters that may all stand in a string without an escape for being controls. -/
def HasNoControls (cs : List Char) : Prop := ∀ c ∈ cs, ¬ c < ' '

variable {c : Char} {cs ds : List Char}

theorem hasNoControls_cons : HasNoControls (c :: cs) ↔ ¬ c < ' ' ∧ HasNoControls cs :=
  List.forall_mem_cons

theorem hasNoControls_append : HasNoControls (cs ++ ds) ↔ HasNoControls cs ∧ HasNoControls ds :=
  List.forall_mem_append

theorem hasNoControls_nil : HasNoControls [] := nofun

theorem hasNoControls_singleton (visible : ¬ c < ' ') : HasNoControls [c] :=
  List.forall_mem_singleton.mpr visible

/-! ## Strings -/

theorem visible_of_hexValue? {n : Nat} (hex : hexValue? c = some n) : ¬ c < ' ' := by
  intro control
  have less : c.toNat < 32 := control
  have digit : ¬ '0' ≤ c := fun le => by
    have bound : 48 ≤ c.toNat := le
    omega
  have lower : ¬ 'a' ≤ c := fun le => by
    have bound : 97 ≤ c.toNat := le
    omega
  have upper : ¬ 'A' ≤ c := fun le => by
    have bound : 65 ≤ c.toNat := le
    omega
  simp [hexValue?, digit, lower, upper] at hex

theorem visible_of_shortEscape? {e : Char} (short : shortEscape? e = some c) : ¬ e < ' ' := by
  unfold shortEscape? at short
  split at short
  case h_9 => cases short
  all_goals decide

theorem IsHex.hasNoControls {n : Nat} (hex : IsHex cs n) : HasNoControls cs := by
  cases hex with
  | of p q r s =>
      simp only [hasNoControls_cons]
      exact ⟨visible_of_hexValue? p, visible_of_hexValue? q, visible_of_hexValue? r,
        visible_of_hexValue? s, hasNoControls_nil⟩

theorem IsEscape.hasNoControls (escaped : IsEscape c cs) : HasNoControls cs := by
  cases escaped with
  | short short => exact hasNoControls_singleton (visible_of_shortEscape? short)
  | unicode hex => exact hasNoControls_cons.mpr ⟨by decide, hex.hasNoControls⟩
  | pair first second =>
      simp only [hasNoControls_append, hasNoControls_cons]
      exact ⟨⟨by decide, first.hasNoControls⟩, by decide, by decide, second.hasNoControls⟩

theorem IsStringText.hasNoControls {s : List Char} (text : IsStringText s cs) :
    HasNoControls cs := by
  induction text with
  | nil => exact hasNoControls_nil
  | plain visible _ _ _ ih => exact hasNoControls_cons.mpr ⟨visible, ih⟩
  | escape escaped _ ih =>
      simp only [hasNoControls_append, hasNoControls_cons]
      exact ⟨⟨by decide, escaped.hasNoControls⟩, ih⟩

theorem hasNoControls_writeString (s : List Char) : HasNoControls (writeString s) := by
  simp only [writeString, hasNoControls_append, hasNoControls_cons]
  exact ⟨⟨by decide, (isStringText_written s).hasNoControls⟩, by decide, hasNoControls_nil⟩

/-! ## Numbers -/

theorem IsDigits.hasNoControls (digits : IsDigits cs) : HasNoControls cs := by
  intro c mem control
  have digit := digits.2 c mem
  have less : c.toNat < 32 := control
  have bound : 48 ≤ c.toNat := by
    simp only [isDigit, Bool.and_eq_true, decide_eq_true_eq] at digit
    exact digit.1
  omega

theorem IsInteger.hasNoControls (isInteger : IsInteger cs) : HasNoControls cs := by
  cases isInteger with
  | zero => exact hasNoControls_singleton (by decide)
  | digits _ digits => exact digits.hasNoControls

theorem IsFraction.hasNoControls (isFraction : IsFraction cs) : HasNoControls cs := by
  cases isFraction with
  | none => exact hasNoControls_nil
  | digits digits => exact hasNoControls_cons.mpr ⟨by decide, digits.hasNoControls⟩

theorem IsPower.hasNoControls (isPower : IsPower cs) : HasNoControls cs := by
  cases isPower with
  | none => exact hasNoControls_nil
  | digits isE signs digits =>
      simp only [hasNoControls_append, hasNoControls_cons]
      refine ⟨⟨?_, ?_⟩, digits.hasNoControls⟩
      · rcases isE with rfl | rfl <;> decide
      · rcases signs with rfl | rfl | rfl
        · exact hasNoControls_nil
        · exact hasNoControls_singleton (by decide)
        · exact hasNoControls_singleton (by decide)

theorem IsNumber.hasNoControls (number : IsNumber cs) : HasNoControls cs := by
  cases number with
  | of signs isInteger isFraction isPower =>
      simp only [hasNoControls_append]
      refine ⟨⟨⟨?_, isInteger.hasNoControls⟩, isFraction.hasNoControls⟩, isPower.hasNoControls⟩
      rcases signs with rfl | rfl
      · exact hasNoControls_nil
      · exact hasNoControls_singleton (by decide)

/-- What a floating-point number is written as: a number, or null if it is not finite. -/
def Value.ofFloat (x : Float) : Value :=
  if x.isFinite then .number (Decimal.Layout.json.render x) else .null

theorem isText_writeNumber (x : Float) : IsText (.value (.ofFloat x)) (writeNumber x) := by
  unfold Value.ofFloat writeNumber
  split
  · exact .number (Decimal.Layout.json.isNumber_render x)
  · exact .null

theorem hasNoControls_writeNumber (x : Float) : HasNoControls (writeNumber x) := by
  unfold writeNumber
  split
  · exact (Decimal.Layout.json.isNumber_render x).hasNoControls
  · simp only [hasNoControls_cons]
    exact ⟨by decide, by decide, by decide, by decide, hasNoControls_nil⟩

/-! ## Lists and objects -/

theorem hasNoControls_intercalate {ts : List (List Char)} (each : ∀ t ∈ ts, HasNoControls t) :
    HasNoControls (List.intercalate [','] ts) :=
  forall_mem_intercalate (show ¬ ',' < ' ' by decide) each

theorem hasNoControls_writeList {ts : List (List Char)} (each : ∀ t ∈ ts, HasNoControls t) :
    HasNoControls (writeList ts) := by
  simp only [writeList, hasNoControls_append, hasNoControls_cons]
  exact ⟨⟨by decide, hasNoControls_intercalate each⟩, by decide, hasNoControls_nil⟩

theorem hasNoControls_writeObject {ws : List (String × List Char)}
    (each : ∀ w ∈ ws, HasNoControls w.2) : HasNoControls (writeObject ws) := by
  simp only [writeObject, hasNoControls_append, hasNoControls_cons]
  refine ⟨⟨by decide, hasNoControls_intercalate ?_⟩, by decide, hasNoControls_nil⟩
  intro t mem
  obtain ⟨w, among, rfl⟩ := List.mem_map.mp mem
  have value := hasNoControls_cons.mpr ⟨show ¬ ':' < ' ' by decide, each w among⟩
  exact hasNoControls_append.mpr ⟨hasNoControls_writeString _, value⟩

end Checkup.Json
