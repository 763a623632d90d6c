import Mathlib.Data.List.DropRight
import Checkup.Text.Blank

/-!
# Taking blanks off a text

* `exists_padding`: a text is what `trim` leaves of it, with blanks around that.
* `trim_blanks_append` and `trim_append_blanks`: blanks around a text make no difference, and so
  `trim_trim`.
* `head?_trim` and `head?_trim_eq_some_iff`: what is left begins with the first character that is no
  blank; `trim_cons` and `trimEnd_append_cons` say what is left from such a character on, and
  `trim_append_cons` what is left around one.
-/

namespace Checkup.Text

/-- Blanks and nothing else. -/
def IsBlanks (cs : List Char) : Prop := ∀ c ∈ cs, isBlank c = true

instance (cs : List Char) : Decidable (IsBlanks cs) := List.decidableBAll (isBlank · = true) cs

variable {a b cs : List Char} {c : Char}

/-! ## The beginning and the end -/

theorem trimStart_blanks_append (blanks : IsBlanks a) (cs : List Char) :
    trimStart (a ++ cs) = trimStart cs :=
  List.dropWhile_append_of_pos blanks

theorem trimEnd_append_blanks (blanks : IsBlanks b) (cs : List Char) :
    trimEnd (cs ++ b) = trimEnd cs := by
  have reversed : ∀ c ∈ b.reverse, isBlank c = true :=
    fun c mem => blanks c (List.mem_reverse.mp mem)
  rw [trimEnd, List.reverse_append, List.dropWhile_append_of_pos reversed, trimEnd]

/-- The end of a text is cut off behind its last character that is no blank. -/
theorem trimEnd_append_cons (a : List Char) (solid : ¬ isBlank c = true) (b : List Char) :
    trimEnd (a ++ c :: b) = a ++ c :: trimEnd b := by
  rw [trimEnd, trimEnd, List.reverse_append, List.reverse_cons, List.append_assoc,
    List.singleton_append, List.dropWhile_append, List.dropWhile_cons_of_neg solid]
  split
  case isTrue none =>
    rw [List.isEmpty_iff.mp none]
    simp
  case isFalse => simp

theorem trimStart_cons (solid : ¬ isBlank c = true) (cs : List Char) :
    trimStart (c :: cs) = c :: cs :=
  List.dropWhile_cons_of_neg solid

theorem trim_cons (solid : ¬ isBlank c = true) (cs : List Char) :
    trim (c :: cs) = c :: trimEnd cs := by
  rw [trim, trimStart_cons solid]
  exact trimEnd_append_cons [] solid cs

/-- What is in front of a character that is no blank only loses its beginning. -/
theorem trimStart_append_cons (a : List Char) (solid : ¬ isBlank c = true) (b : List Char) :
    trimStart (a ++ c :: b) = trimStart a ++ c :: b := by
  rw [trimStart, trimStart, List.dropWhile_append, List.dropWhile_cons_of_neg solid]
  split
  case isTrue none => rw [List.isEmpty_iff.mp none, List.nil_append]
  case isFalse => rfl

theorem takeWhile_append_trimStart (cs : List Char) :
    cs.takeWhile isBlank ++ trimStart cs = cs := List.takeWhile_append_dropWhile

/-! ## Both ends -/

/-- Around a character that is no blank, only what is in front of it loses its beginning, and what
is behind it its end. -/
theorem trim_append_cons (a : List Char) (solid : ¬ isBlank c = true) (b : List Char) :
    trim (a ++ c :: b) = trimStart a ++ c :: trimEnd b := by
  rw [trim, trimStart_append_cons a solid, trimEnd_append_cons _ solid]

/-- A text is what is left of it with blanks around. -/
theorem exists_padding (cs : List Char) :
    ∃ a b, IsBlanks a ∧ IsBlanks b ∧ cs = a ++ trim cs ++ b := by
  refine ⟨cs.takeWhile isBlank, (trimStart cs).rtakeWhile isBlank,
    fun c => List.mem_takeWhile_imp, fun c => List.mem_rtakeWhile_imp, ?_⟩
  have ending : trim cs ++ (trimStart cs).rtakeWhile isBlank = trimStart cs :=
    List.rdropWhile_append_rtakeWhile
  rw [List.append_assoc, ending, takeWhile_append_trimStart]

theorem trim_blanks_append (blanks : IsBlanks a) (cs : List Char) : trim (a ++ cs) = trim cs := by
  rw [trim, trimStart_blanks_append blanks, trim]

theorem trim_of_blanks (blanks : IsBlanks cs) : trim cs = [] := by
  have nothing := trim_blanks_append blanks []
  rwa [List.append_nil] at nothing

theorem trim_append_blanks (blanks : IsBlanks b) (cs : List Char) : trim (cs ++ b) = trim cs := by
  rw [trim, trim, trimStart, List.dropWhile_append]
  split
  case isTrue all =>
    have start : trimStart cs = [] := List.isEmpty_iff.mp all
    rw [start]
    exact trim_of_blanks blanks
  case isFalse => exact trimEnd_append_blanks blanks _

@[simp] theorem trim_trim (cs : List Char) : trim (trim cs) = trim cs := by
  rcases exists_padding cs with ⟨a, b, before, behind, padded⟩
  calc trim (trim cs) = trim (a ++ (trim cs ++ b)) := by
        rw [trim_blanks_append before, trim_append_blanks behind]
    _ = trim cs := by rw [← List.append_assoc, ← padded]

theorem trim_trimEnd (cs : List Char) : trim (trimEnd cs) = trim cs := by
  have split : trimEnd cs ++ cs.rtakeWhile isBlank = cs := List.rdropWhile_append_rtakeWhile
  have behind : IsBlanks (cs.rtakeWhile isBlank) := fun c => List.mem_rtakeWhile_imp
  rw [← trim_append_blanks behind, split]

theorem trim_trimStart (cs : List Char) : trim (trimStart cs) = trim cs := by
  have before : IsBlanks (cs.takeWhile isBlank) := fun c => List.mem_takeWhile_imp
  rw [← trim_blanks_append before, takeWhile_append_trimStart]

/-- Taking blanks off the end leaves the first character that is no blank. -/
theorem head?_trim (cs : List Char) : (trim cs).head? = (trimStart cs).head? := by
  have solid := List.head?_dropWhile_not isBlank cs
  rw [trim]
  unfold trimStart
  cases left : cs.dropWhile isBlank with
  | nil => rfl
  | cons c rest =>
      simp only [left, List.head?_cons] at solid
      have kept : trimEnd (c :: rest) = c :: trimEnd rest :=
        trimEnd_append_cons [] (by simp [solid]) rest
      rw [kept]
      rfl

theorem head?_trim_eq_some_iff (solid : ¬ isBlank c = true) :
    (trim cs).head? = some c ↔ ∃ indent rest, IsBlanks indent ∧ cs = indent ++ c :: rest := by
  rw [head?_trim]
  constructor
  · intro begins
    obtain ⟨rest, left⟩ := List.head?_eq_some_iff.mp begins
    refine ⟨cs.takeWhile isBlank, rest, fun c => List.mem_takeWhile_imp, ?_⟩
    rw [← left, takeWhile_append_trimStart]
  · intro split
    rcases split with ⟨indent, rest, blanks, rfl⟩
    rw [trimStart_blanks_append blanks, trimStart_cons solid]
    rfl

theorem trim_eq_nil_iff : trim cs = [] ↔ IsBlanks cs := by
  refine ⟨fun none => ?_, trim_of_blanks⟩
  rcases exists_padding cs with ⟨a, b, before, behind, padded⟩
  rw [none, List.append_nil] at padded
  rw [padded]
  exact fun c mem => (List.mem_append.mp mem).elim (before c) (behind c)

theorem mem_of_mem_trim (mem : c ∈ trim cs) : c ∈ cs := by
  rcases exists_padding cs with ⟨a, b, -, -, padded⟩
  rw [padded]
  exact List.mem_append_left b (List.mem_append_right a mem)

end Checkup.Text
