/-!
# Steps that can fail

When steps one after the other succeed, and when they fail.  By `exists_split_cons`, a place in a
list is its beginning or further on: what is first among the elements of a list is found by this and
an induction.
-/

namespace Checkup

variable {ε ε' α β : Type}

theorem bind_eq_ok_iff {x : Except ε α} {f : α → Except ε β} {b : β} :
    x >>= f = .ok b ↔ ∃ a, x = .ok a ∧ f a = .ok b := by
  cases x <;> simp [bind, Except.bind]

theorem bind_eq_error_iff {x : Except ε α} {f : α → Except ε β} {e : ε} :
    x >>= f = .error e ↔ x = .error e ∨ ∃ a, x = .ok a ∧ f a = .error e := by
  cases x <;> simp [bind, Except.bind]

theorem mapError_eq_ok_iff {x : Except ε α} {f : ε → ε'} {a : α} :
    x.mapError f = .ok a ↔ x = .ok a := by
  cases x with
  | error e => constructor <;> intro same <;> cases same
  | ok b => constructor <;> intro same <;> cases same <;> rfl

theorem mapError_eq_error_iff {x : Except ε α} {f : ε → ε'} {e : ε'} :
    x.mapError f = .error e ↔ ∃ a, x = .error a ∧ f a = e := by
  cases x with
  | error a =>
      constructor
      · intro same
        exact ⟨a, rfl, Except.error.inj same⟩
      · rintro ⟨b, same, rfl⟩
        rw [Except.error.inj same]
        rfl
  | ok b =>
      constructor
      · intro same
        cases same
      · rintro ⟨a, same, -⟩
        cases same

theorem exists_ok_of_same_errors {x : Except ε α} {y : Except ε β}
    (same : ∀ e, x = .error e ↔ y = .error e) {a : α} (ok : x = .ok a) : ∃ b, y = .ok b := by
  cases y with
  | error e => cases ok.symm.trans ((same e).mpr rfl)
  | ok b => exact ⟨b, rfl⟩

/-! ## Places in a list -/

section Lists

variable {a : α} {l : List α} {P : List α → α → List α → Prop}

theorem not_exists_split_nil :
    ¬ ∃ before x after, [] = before ++ x :: after ∧ P before x after := by
  rintro ⟨before, x, after, split, -⟩
  cases before <;> cases split

/-- A place in a list is its beginning or a place further on. -/
theorem exists_split_cons :
    (∃ before x after, a :: l = before ++ x :: after ∧ P before x after) ↔
      P [] a l ∨ ∃ before x after, l = before ++ x :: after ∧ P (a :: before) x after := by
  constructor
  · rintro ⟨before, x, after, split, holds⟩
    cases before with
    | nil =>
        cases split
        exact .inl holds
    | cons b before =>
        cases split
        exact .inr ⟨before, x, after, rfl, holds⟩
  · rintro (holds | ⟨before, x, after, rfl, holds⟩)
    · exact ⟨[], a, l, rfl, holds⟩
    · exact ⟨a :: before, x, after, rfl, holds⟩

end Lists

end Checkup
