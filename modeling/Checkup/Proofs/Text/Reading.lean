/-!
# What can be read off a text

A text that was put together can be taken apart again where one knows what it begins with or which
character does not occur in a part of it.

* `initial_eq_of_same`: the first letter tells kinds of texts apart.
* `append_cons_inj`, `append_cons_inj_first`: a text can be cut at the last and at the first place
  of a character in one way.
* `append_number_inj`, `number_append_inj`: so a number can be read off the end and the beginning of
  a text, up to a blank.
-/

namespace Checkup

/-- Texts are of one kind if they are the same and each begins with the letter for its kind. -/
theorem initial_eq_of_same {α : Type} {write : α → String} {initial : α → Char}
    (begins : ∀ x, (write x).toList.head? = some (initial x)) {a b : α}
    (same : write a = write b) : initial a = initial b := by
  rw [← Option.some.injEq, ← begins, ← begins, same]

/-! ## Cuts -/

theorem cons_eq_append_cons {c : Char} {between ds es : List Char} (last : c ∉ ds)
    (same : c :: ds = between ++ c :: es) : between = [] ∧ ds = es := by
  cases between with
  | nil => exact ⟨rfl, (List.cons.inj same).2⟩
  | cons d between =>
      have inside : ds = between ++ c :: es := (List.cons.inj same).2
      apply absurd _ last
      rw [inside]
      exact List.mem_append_right between List.mem_cons_self

/-- A text can be cut at the last place of a character in one way. -/
theorem append_cons_inj {c : Char} {a b ds es : List Char} (hds : c ∉ ds) (hes : c ∉ es)
    (same : a ++ c :: ds = b ++ c :: es) : a = b ∧ ds = es := by
  -- The cut that comes later has no such character behind it, so it comes no later.
  rcases List.append_eq_append_iff.mp same with ⟨between, rfl, behind⟩ | ⟨between, rfl, behind⟩
  · have ⟨nothing, rest⟩ := cons_eq_append_cons hds behind
    exact ⟨by rw [nothing, List.append_nil], rest⟩
  · have ⟨nothing, rest⟩ := cons_eq_append_cons hes behind
    exact ⟨by rw [nothing, List.append_nil], rest.symm⟩

/-- So it can at the first place, whatever stands behind it. -/
theorem append_cons_inj_first {c : Char} {a b ds es : List Char} (ha : c ∉ a) (hb : c ∉ b)
    (same : a ++ c :: ds = b ++ c :: es) : a = b ∧ ds = es := by
  -- Read backwards, the first place is the last one.
  have backwards : ds.reverse ++ c :: a.reverse = es.reverse ++ c :: b.reverse := by
    simpa using congrArg List.reverse same
  have ⟨rest, before⟩ := append_cons_inj (by rwa [List.mem_reverse]) (by rwa [List.mem_reverse])
    backwards
  exact ⟨List.reverse_inj.mp before, List.reverse_inj.mp rest⟩

/-- The beginning of a text that goes on in one way ends at the first character that stops it. -/
theorem takeWhile_append_of_stop {p : Char → Bool} {cs ds : List Char}
    (goesOn : ∀ c ∈ cs, p c = true) (stops : ∀ c ∈ ds.head?, p c = false) :
    (cs ++ ds).takeWhile p = cs := by
  rw [List.takeWhile_append_of_pos goesOn]
  cases ds with
  | nil => exact List.append_nil cs
  | cons d ds =>
      have stop : ¬ p d = true := Bool.eq_false_iff.mp (stops d rfl)
      rw [List.takeWhile_cons_of_neg stop, List.append_nil]

/-! ## Numbers -/

theorem blank_notMem_toDigits (n : Nat) : ' ' ∉ Nat.toDigits 10 n := by
  intro mem
  have digit : ' '.isDigit = true := Nat.isDigit_of_mem_toDigits (by decide) (by decide) mem
  exact absurd digit (by decide)

theorem toDigits_inj {m n : Nat} (same : Nat.toDigits 10 m = Nat.toDigits 10 n) : m = n := by
  have back (k : Nat) : Nat.ofDigitChars 10 (Nat.toDigits 10 k) 0 = k :=
    Nat.ofDigitChars_toDigits (by decide) (by decide)
  rw [← back m, same, back n]

/-- A number can be read off the end of a text, as no blank stands in it. -/
theorem append_number_inj {a b : String} {m n : Nat}
    (same : a ++ " " ++ m.repr = b ++ " " ++ n.repr) : a = b ∧ m = n := by
  have chars : a.toList ++ ' ' :: Nat.toDigits 10 m = b.toList ++ ' ' :: Nat.toDigits 10 n := by
    simpa using congrArg String.toList same
  have ⟨before, digits⟩ :=
    append_cons_inj (blank_notMem_toDigits m) (blank_notMem_toDigits n) chars
  exact ⟨String.toList_inj.mp before, toDigits_inj digits⟩

/-- A number can be read off the beginning of a text, even if more blanks follow. -/
theorem number_append_inj {a b : String} {m n : Nat}
    (same : m.repr ++ " " ++ a = n.repr ++ " " ++ b) : m = n ∧ a = b := by
  have chars : Nat.toDigits 10 m ++ ' ' :: a.toList = Nat.toDigits 10 n ++ ' ' :: b.toList := by
    simpa using congrArg String.toList same
  have ⟨digits, behind⟩ :=
    append_cons_inj_first (blank_notMem_toDigits m) (blank_notMem_toDigits n) chars
  exact ⟨toDigits_inj digits, String.toList_inj.mp behind⟩

/-! ## Joined texts -/

section Joined

variable {separator : Char} {parts : List (List Char)}

/-- What holds of a separator and of the characters of all parts holds of those of a joined text. -/
theorem forall_mem_intercalate {P : Char → Prop} (holds : P separator)
    (each : ∀ part ∈ parts, ∀ c ∈ part, P c) : ∀ c ∈ List.intercalate [separator] parts, P c := by
  induction parts with
  | nil => exact nofun
  | cons part parts ih =>
      obtain ⟨here, later⟩ := List.forall_mem_cons.mp each
      cases parts with
      | nil => rwa [List.intercalate_singleton]
      | cons next parts =>
          rw [List.intercalate_cons_cons, List.forall_mem_append, List.forall_mem_append,
            List.forall_mem_singleton]
          exact ⟨⟨here, holds⟩, ih later⟩

/-- A separator that no part has stands between the parts only. -/
theorem count_intercalate (absent : ∀ part ∈ parts, separator ∉ part) :
    (List.intercalate [separator] parts).count separator = parts.length - 1 := by
  induction parts with
  | nil => rfl
  | cons part parts ih =>
      obtain ⟨here, later⟩ := List.forall_mem_cons.mp absent
      cases parts with
      | nil => rw [List.intercalate_singleton, List.count_eq_zero.mpr here, List.length_singleton]
      | cons next parts =>
          rw [List.intercalate_cons_cons, List.count_append, List.count_append, ih later,
            List.count_eq_zero.mpr here, List.count_singleton_self]
          simp only [List.length_cons]
          omega

end Joined

end Checkup
