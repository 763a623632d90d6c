import Checkup.Proofs.Text.Reading
import Checkup.Report
import Checkup.Review.Client

/-!
# What the report of a failed call tells

The details and bodies in the messages of faults come from outside and are any text, but they stand
at the end.  What stands before them is read from the beginning: the first letter tells the four
kinds of faults apart, and a status ends where the first blank behind it is.

* `CompletionFault.message_status`: where the status and the body stand in a message.
* `CompletionFault.message_injective`: a fault can be read off its message.
* `report_determines_fault`: so it can be read off the report of a call that failed.
-/

namespace Checkup

theorem Report.render_inj {stage : Stage} {a b : List Char} :
    render { stage, body := a } = render { stage, body := b } ↔ a = b := by
  unfold render
  rw [List.append_right_inj, List.cons_inj_right]

namespace Review

namespace CompletionFault

/-- The letter that the message of a fault begins with. -/
def initial : CompletionFault → Char
  | transport _ => 'R'
  | status _ _ => 'A'
  | decode _ => 'J'
  | unexpected _ => 'U'

theorem head?_message (fault : CompletionFault) :
    fault.message.toList.head? = some fault.initial := by
  unfold message
  cases fault <;> simp [initial]

/-- Behind a status there is a blank, then a hyphen, and at last the body. -/
theorem message_status (code : Nat) (body : List Char) :
    (status code body).message =
      "API Error: " ++ (code.repr ++ " " ++ ("- " ++ String.ofList body)) := by
  have hyphen : " - " = " " ++ "- " := rfl
  unfold message
  rw [hyphen]
  simp only [String.append_assoc]

theorem status_inj {m n : Nat} {x y : List Char}
    (same : (status m x).message = (status n y).message) : m = n ∧ x = y := by
  rw [message_status, message_status, String.append_right_inj] at same
  have ⟨code, behind⟩ := number_append_inj same
  rw [String.append_right_inj] at behind
  exact ⟨code, String.ofList_injective behind⟩

theorem message_injective : Function.Injective message := by
  intro a b same
  have first : a.initial = b.initial := initial_eq_of_same head?_message same
  cases a <;> cases b
  case status.status m x n y =>
    have ⟨code, body⟩ := status_inj same
    rw [code, body]
  case transport.transport | decode.decode | unexpected.unexpected =>
    unfold message at same
    rw [(String.append_right_inj _).mp same]
  all_goals cases first

end CompletionFault

/-- The message of a fault determines the fault, with its status, body or detail, whatever those
contain.  So does what is shown of a call that failed, on its own and under the heading of its
report. -/
theorem report_determines_fault :
    (∀ a b : CompletionFault, a.message = b.message ↔ a = b) ∧
    ∀ a b : CompletionFault,
      (Client.reportOf (.error a) = Client.reportOf (.error b) ↔ a = b) ∧
      (Report.render { stage := .suggestions, body := Client.reportOf (.error a) } =
        Report.render { stage := .suggestions, body := Client.reportOf (.error b) } ↔ a = b) := by
  have shown (a b : CompletionFault) :
      Client.reportOf (.error a) = Client.reportOf (.error b) ↔ a = b := by
    unfold Client.reportOf
    rw [String.toList_inj, CompletionFault.message_injective.eq_iff]
  refine ⟨fun a b => CompletionFault.message_injective.eq_iff, fun a b => ⟨shown a b, ?_⟩⟩
  rw [Report.render_inj, shown]

/-- Only failed calls can be told apart: a completion may read like a fault. -/
example : Client.reportOf (.ok "API Error: 500 - x".toList) =
    Client.reportOf (.error (.status 500 ['x'])) := by decide

end Review

end Checkup
