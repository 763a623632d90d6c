import Checkup.Syntax.Rule.Indentation

/-!
# Indents and their widths

* `measure_indentOf`: a line is as wide as its indent.
* `measureFrom_plain`: more spaces and tabs make an indent wider in both widths, wherever the tab
  stops are.
-/

namespace Checkup.Syntax.Indentation

/-- The spaces, tabs and form feeds that a line begins with. -/
def indentOf (line : List Char) : List Char :=
  line.takeWhile fun c => c = ' ' || c = '\t' || c = '\x0c'

/-- An indent without form feeds. -/
def IsPlain (indent : List Char) : Prop := ∀ c ∈ indent, c = ' ' ∨ c = '\t'

theorem measureFrom_indentOf (w : Width) (line : List Char) :
    measureFrom w (indentOf line) = measureFrom w line := by
  fun_induction measureFrom w line with
  | case1 w line ih => exact ih
  | case2 w line ih => exact ih
  | case3 w line ih => exact ih
  | case4 line w no_space no_tab no_feed =>
      have none : indentOf line = [] := by
        cases line with
        | nil => rfl
        | cons c line =>
            have other : (c = ' ' || c = '\t' || c = '\x0c') = false := by
              simp only [Bool.or_eq_false_iff, decide_eq_false_iff_not]
              exact ⟨⟨fun same => no_space line (by rw [same]),
                fun same => no_tab line (by rw [same])⟩,
                fun same => no_feed line (by rw [same])⟩
            rw [indentOf, List.takeWhile_cons, other]
            rfl
      rw [none]
      rfl

/-- A line is as wide as its indent. -/
theorem measure_indentOf (line : List Char) : measure (indentOf line) = measure line :=
  measureFrom_indentOf _ line

theorem measureFrom_space (w : Width) : measureFrom w [' '] = ⟨w.wide + 1, w.narrow + 1⟩ := rfl

theorem measureFrom_tab (w : Width) :
    measureFrom w ['\t'] = ⟨(w.wide / tabStop + 1) * tabStop, w.narrow + 1⟩ := rfl

/-- An indent is measured blank by blank. -/
theorem measureFrom_cons {c : Char} (blank : c = ' ' ∨ c = '\t') (w : Width) (cs : List Char) :
    measureFrom w (c :: cs) = measureFrom (measureFrom w [c]) cs := by
  rcases blank with rfl | rfl
  · rfl
  · rfl

/-- A blank moves on by at least one column, and by just one if tabs are one column. -/
theorem measureFrom_blank {c : Char} (blank : c = ' ' ∨ c = '\t') (w : Width) :
    w.wide + 1 ≤ (measureFrom w [c]).wide ∧ (measureFrom w [c]).narrow = w.narrow + 1 := by
  rcases blank with rfl | rfl
  · rw [measureFrom_space]
    exact ⟨Nat.le_refl _, rfl⟩
  · rw [measureFrom_tab]
    refine ⟨?_, rfl⟩
    dsimp only [tabStop]
    omega

/-- An indent that goes on with blanks is wider by at least as many columns. -/
theorem measureFrom_plain {more : List Char} (plain : IsPlain more) (w : Width) :
    w.wide + more.length ≤ (measureFrom w more).wide ∧
      (measureFrom w more).narrow = w.narrow + more.length := by
  induction more generalizing w with
  | nil => exact ⟨Nat.le_refl _, rfl⟩
  | cons c more ih =>
      have ⟨blank, rest⟩ := List.forall_mem_cons.mp plain
      have ⟨wide, narrow⟩ := measureFrom_blank blank w
      have ⟨wideRest, narrowRest⟩ := ih rest (measureFrom w [c])
      rw [measureFrom_cons blank, List.length_cons]
      omega

/-- An indent is measured from left to right. -/
theorem measureFrom_append {indent : List Char} (plain : IsPlain indent) (more : List Char)
    (w : Width) : measureFrom w (indent ++ more) = measureFrom (measureFrom w indent) more := by
  induction indent generalizing w with
  | nil => rfl
  | cons c indent ih =>
      have ⟨blank, rest⟩ := List.forall_mem_cons.mp plain
      rw [List.cons_append, measureFrom_cons blank w (indent ++ more),
        measureFrom_cons blank w indent, ih rest]

/-- A longer indent that begins with another one is wider in both widths. -/
theorem measure_wider {indent more : List Char} (plain : IsPlain (indent ++ more))
    (longer : more ≠ []) :
    (measure indent).wide < (measure (indent ++ more)).wide ∧
      (measure indent).narrow < (measure (indent ++ more)).narrow := by
  have ⟨plainIndent, plainMore⟩ := List.forall_mem_append.mp plain
  have ⟨wide, narrow⟩ := measureFrom_plain plainMore (measure indent)
  have positive := List.length_pos_iff.mpr longer
  unfold measure at wide narrow ⊢
  rw [measureFrom_append plainIndent]
  omega

end Checkup.Syntax.Indentation
