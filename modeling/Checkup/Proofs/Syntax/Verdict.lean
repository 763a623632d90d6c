import Checkup.Proofs.Text.Reading
import Checkup.Syntax.Check

/-!
# What the verdict tells

The words for an outcome can be read in one way only.  The message of an issue is any text and
comes first, so its place is read from the end, where each number stands behind the last blank.

* `Issue.render_injective`: an issue can be read off its text.
* `Failure.message_injective`: so can a failure.
* `verdict_determines_outcome`: so can the outcome of a check.
-/

namespace Checkup

/-! ## Failures -/

namespace Failure

/-- The letter that the message of a failure begins with. -/
def initial : Failure → Char
  | io _ => 'I'
  | config _ => 'c'
  | parse _ => 'p'
  | client _ => 'L'
  | fileNotFound _ => 'f'

theorem head?_message (e : Failure) : e.message.toList.head? = some e.initial := by
  unfold message
  cases e <;> simp [initial]

theorem message_injective : Function.Injective message := by
  intro a b same
  have first : a.initial = b.initial := initial_eq_of_same head?_message same
  cases a <;> cases b
  case io.io | config.config | parse.parse | client.client | fileNotFound.fileNotFound =>
    unfold message at same
    rw [(String.append_right_inj _).mp same]
  all_goals cases first

end Failure

namespace Syntax

/-! ## Issues -/

/-- The text of an issue up to its column, without the blank before it. -/
def Issue.upToColumn (i : Issue) : String :=
  i.message ++ " (line" ++ " " ++ i.line.repr ++ ", column"

theorem Issue.render_eq (i : Issue) :
    i.render = i.upToColumn ++ " " ++ i.column.repr ++ ")" := by
  have line : " (line " = " (line" ++ " " := rfl
  have column : ", column " = ", column" ++ " " := rfl
  unfold Issue.render Issue.upToColumn
  rw [line, column]
  simp only [String.append_assoc]

theorem Issue.render_injective : Function.Injective Issue.render := by
  intro i j same
  rw [render_eq, render_eq, String.append_left_inj] at same
  -- Read from the end: the column, the line, and then the message is what is left.
  have ⟨before, column⟩ := append_number_inj same
  unfold Issue.upToColumn at before
  rw [String.append_left_inj] at before
  have ⟨header, line⟩ := append_number_inj before
  have message : i.message = j.message := (String.append_left_inj _).mp header
  cases i
  cases j
  dsimp only at line column message
  rw [line, column, message]

/-- A message may end like the text of a place. -/
example : Issue.render { line := 12, column := 3, message := "x (line 1, column 2)" } =
    "x (line 1, column 2) (line 12, column 3)" := by decide

/-! ## Outcomes -/

theorem verdict_issue (issue : Issue) :
    verdict (.ok (some issue)) = "Syntax Error: " ++ issue.render := rfl

theorem verdict_failure (e : Failure) :
    verdict (.error e) = "Unexpected Error: " ++ e.message := rfl

/-- The letter that the words for an outcome begin with. -/
def initial : Except Failure (Option Issue) → Char
  | .ok none => 'N'
  | .ok (some _) => 'S'
  | .error _ => 'U'

theorem head?_verdict (outcome : Except Failure (Option Issue)) :
    (verdict outcome).toList.head? = some (initial outcome) := by
  rcases outcome with e | _ | issue
  · simp [verdict_failure, initial]
  · decide
  · simp [verdict_issue, initial]

theorem verdict_injective : Function.Injective verdict := by
  intro a b same
  have first : initial a = initial b := initial_eq_of_same head?_verdict same
  rcases a with e | _ | i <;> rcases b with f | _ | j
  case error.error =>
    rw [verdict_failure, verdict_failure, String.append_right_inj] at same
    rw [Failure.message_injective same]
  case ok.none.ok.none => rfl
  case ok.some.ok.some =>
    rw [verdict_issue, verdict_issue, String.append_right_inj] at same
    rw [Issue.render_injective same]
  all_goals cases first

theorem verdict_eq_noErrors_iff (outcome : Except Failure (Option Issue)) :
    verdict outcome = noErrors ↔ outcome = .ok none := by
  have clear : verdict (.ok none) = noErrors := rfl
  rw [← clear, verdict_injective.eq_iff]

/-- The text of an issue determines the issue, whatever its message says, and the words for an
outcome determine the outcome; the all-clear stands for no issue only. -/
theorem verdict_determines_outcome :
    (∀ i j : Issue, i.render = j.render ↔
      i.line = j.line ∧ i.column = j.column ∧ i.message = j.message) ∧
    (∀ a b : Except Failure (Option Issue), verdict a = verdict b ↔ a = b) ∧
    ∀ outcome, verdict outcome = noErrors ↔ outcome = .ok none := by
  refine ⟨fun i j => ?_, fun a b => verdict_injective.eq_iff, verdict_eq_noErrors_iff⟩
  rw [Issue.render_injective.eq_iff]
  cases i
  cases j
  rw [Issue.mk.injEq]

end Syntax

end Checkup
