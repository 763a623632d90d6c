import Checkup.Proofs.Text.Lines
import Checkup.Syntax.Issue

/-!
# Places and what comes first

A place of a text is a cut of it, `Place.behind` some prefix.

* `columnOf_prefix` counts the characters of a line's beginning, and `columnOf_le` bounds any column
  of a line.
* `columnOf_behind` reads the column of a place off the line that the prefix ends in.
* `Issue.ofPlace_not_isBefore` orders issues as the bytes before their places: what is reported
  further down does not come before what is reported further up.
-/

namespace Checkup.Syntax

/-! ## Places of a text -/

/-- The place behind a text. -/
def Place.behind (before : List Char) : Place :=
  ⟨Text.byteLength before, before.count '\n', Text.byteLength (Text.lastLine before)⟩

/-- The place is one between two characters of a text, or at an end of it. -/
def Place.IsIn (text : List Char) (p : Place) : Prop :=
  ∃ before, before <+: text ∧ p = .behind before

theorem Place.isIn_iff {text : List Char} {p : Place} :
    p.IsIn text ↔ ∃ n < text.length + 1, p = .behind (text.take n) := by
  constructor
  · rintro ⟨before, inside, rfl⟩
    refine ⟨before.length, Nat.lt_succ_of_le inside.length_le, ?_⟩
    rw [← List.prefix_iff_eq_take.mp inside]
  · rintro ⟨n, _, rfl⟩
    exact ⟨text.take n, List.take_prefix n text, rfl⟩

instance (text : List Char) (p : Place) : Decidable (p.IsIn text) :=
  decidable_of_iff _ Place.isIn_iff.symm

/-- Of two places of a text, the one with fewer bytes before it is on no later row. -/
theorem Place.row_le_of_byte_le {text : List Char} {p q : Place} (hp : p.IsIn text)
    (hq : q.IsIn text) (le : p.byte ≤ q.byte) : p.row ≤ q.row := by
  rcases hp with ⟨up, upIn, rfl⟩
  rcases hq with ⟨down, downIn, rfl⟩
  have inside := Text.prefix_of_byteLength_le upIn downIn le
  exact inside.sublist.count_le '\n'

/-- A place of a text is on one of its lines. -/
theorem Place.IsIn.row_lt_length {text : List Char} {p : Place} (inside : p.IsIn text) :
    p.row < (Text.lines text).length := by
  rcases inside with ⟨before, beginning, rfl⟩
  rw [Text.length_lines]
  exact Nat.lt_succ_of_le (beginning.sublist.count_le '\n')

/-- The column behind the beginning of a line counts its characters. -/
theorem columnOf_prefix {text before : List Char} {row : Nat}
    (inside : before <+: (Text.lines text).getD row []) :
    columnOf text row (Text.byteLength before) = before.length + 1 := by
  unfold columnOf
  dsimp only
  rw [Text.takeBytes?_eq_some_iff.mpr ⟨inside, rfl⟩]
  rfl

/-- No column is further right than the end of the line. -/
theorem columnOf_le (text : List Char) (row column : Nat) :
    columnOf text row column ≤ ((Text.lines text).getD row []).length + 1 := by
  unfold columnOf
  dsimp only
  cases cut : Text.takeBytes? column ((Text.lines text).getD row []) with
  | none => exact Nat.le_refl _
  | some before =>
      have inside := (Text.takeBytes?_eq_some_iff.mp cut).1
      exact Nat.succ_le_succ inside.length_le

/-- Columns count the characters of the line so far. -/
theorem columnOf_behind {before text : List Char} (inside : before <+: text) :
    columnOf text (Place.behind before).row (Place.behind before).column =
      (Text.lastLine before).length + 1 := by
  rcases inside with ⟨rest, rfl⟩
  apply columnOf_prefix
  unfold Place.behind
  rw [Text.getD_lines_append]
  exact List.prefix_append _ _

namespace Issue

/-! ## The order of issues -/

theorem isBefore_iff {a b : Issue} :
    a.isBefore b = true ↔ a.line < b.line ∨ a.line = b.line ∧ a.column < b.column := by
  simp only [isBefore, Bool.or_eq_true, Bool.and_eq_true, decide_eq_true_eq]

theorem not_isBefore_self (a : Issue) : ¬ a.isBefore a = true := by
  rw [isBefore_iff]
  omega

/-- Neither of two issues comes before the one that comes first. -/
theorem not_isBefore_earlier (a b : Issue) :
    ¬ a.isBefore (if b.isBefore a then b else a) = true ∧
      ¬ b.isBefore (if b.isBefore a then b else a) = true := by
  by_cases first : b.isBefore a = true
  · rw [if_pos first]
    refine ⟨?_, not_isBefore_self b⟩
    rw [isBefore_iff] at first ⊢
    omega
  · rw [if_neg first]
    exact ⟨not_isBefore_self a, first⟩

/-- What does not come before an issue does not come before what comes before that. -/
theorem not_isBefore_trans {a b c : Issue} (ba : ¬ b.isBefore a = true)
    (cb : ¬ c.isBefore b = true) : ¬ c.isBefore a = true := by
  rw [isBefore_iff] at ba cb ⊢
  omega

/-- Whichever message is reported there, a place further down does not come before one further
up. -/
theorem ofPlace_not_isBefore {text : List Char} {p q : Place} (hp : p.IsIn text)
    (hq : q.IsIn text) (le : p.byte ≤ q.byte) (m m' : String) :
    ¬ (ofPlace text q m).isBefore (ofPlace text p m') = true := by
  rcases hp with ⟨up, upIn, rfl⟩
  rcases hq with ⟨down, downIn, rfl⟩
  rw [isBefore_iff]
  simp only [ofPlace, atRow, columnOf_behind upIn, columnOf_behind downIn]
  rcases Text.prefix_of_byteLength_le upIn downIn le with ⟨between, rfl⟩
  simp only [Place.behind, List.count_append]
  by_cases feeds : between.count '\n' = 0
  · -- on one line, the later place has the characters between the two before it as well
    rw [Text.lastLine_append (List.count_eq_zero.mp feeds), List.length_append]
    omega
  · omega

end Issue

end Checkup.Syntax
