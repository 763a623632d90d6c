import Checkup.Lexing.Pattern
import Checkup.Proofs.Text.CharSet
import Mathlib.Computability.Language

/-!
# What a regular expression matches

`Regex.language` holds of the texts that an expression matches, apart from any automaton for it.

* One lemma for each way to make an expression says what its texts are.
* `plus_induction`: what holds of one repetition, and of one more in front, holds of any number.
* `mem_plus_oneOf_iff`: repetitions of a character of a set.
-/

namespace Checkup.Lexing.Regex

open Computability

/-- The texts that an expression matches. -/
def language : Regex → Language Char
  | .empty => 1
  | .oneOf chars => {cs | ∃ c, chars.contains c.toNat = true ∧ cs = [c]}
  | .cat first second => first.language * second.language
  | .alt first second => first.language + second.language
  | .plus body => body.language * body.language∗

variable {cs xs ys : List Char} {r : Regex} {rs : List Regex} {s : CharSet}

theorem mem_oneOf_iff :
    cs ∈ (oneOf s).language ↔ ∃ c, s.contains c.toNat = true ∧ cs = [c] := Iff.rfl

theorem mem_char_iff {c : Char} : cs ∈ (char c).language ↔ cs = [c] := by
  unfold char
  rw [mem_oneOf_iff]
  simp only [CharSet.contains_between]
  constructor
  · intro h
    obtain ⟨d, ⟨least, most⟩, rfl⟩ := h
    rw [Char.le_antisymm most least]
  · intro same
    exact ⟨c, ⟨Char.le_refl c, Char.le_refl c⟩, same⟩

theorem mem_anyOf_iff {chars : String} :
    cs ∈ (anyOf chars).language ↔ ∃ c ∈ chars.toList, cs = [c] := by
  unfold anyOf
  rw [mem_oneOf_iff]
  simp only [CharSet.contains_ofChars]

theorem mem_opt_iff : cs ∈ (opt r).language ↔ cs ∈ r.language ∨ cs = [] := by
  change cs ∈ r.language + 1 ↔ _
  rw [Language.mem_add, Language.mem_one]

theorem mem_opt_anyOf_iff {chars : String} :
    cs ∈ (opt (anyOf chars)).language ↔
      ∃ o : Option Char, (∀ c ∈ o, c ∈ chars.toList) ∧ o.toList = cs := by
  rw [mem_opt_iff, mem_anyOf_iff]
  constructor
  · intro h
    rcases h with ⟨c, mem, rfl⟩ | rfl
    · exact ⟨some c, fun d same => by cases same; exact mem, rfl⟩
    · exact ⟨none, nofun, rfl⟩
  · intro h
    obtain ⟨_ | c, mem, rfl⟩ := h
    · exact .inr rfl
    · exact .inl ⟨c, mem c rfl, rfl⟩

theorem mem_alt_iff {r' : Regex} :
    cs ∈ (alt r r').language ↔ cs ∈ r.language ∨ cs ∈ r'.language := Language.mem_add _ _ _

theorem mem_alt_opt_anyOf_iff {chars chars' : String} :
    cs ∈ (alt (opt (anyOf chars)) (opt (anyOf chars'))).language ↔
      ∃ o : Option Char, (∀ c ∈ o, c ∈ chars.toList ++ chars'.toList) ∧ o.toList = cs := by
  rw [mem_alt_iff, mem_opt_anyOf_iff, mem_opt_anyOf_iff]
  constructor
  · intro h
    rcases h with ⟨o, mem, same⟩ | ⟨o, mem, same⟩
    · exact ⟨o, fun c isLast => List.mem_append_left _ (mem c isLast), same⟩
    · exact ⟨o, fun c isLast => List.mem_append_right _ (mem c isLast), same⟩
  · intro h
    obtain ⟨_ | c, mem, rfl⟩ := h
    · exact .inl ⟨none, nofun, rfl⟩
    · rcases List.mem_append.mp (mem c rfl) with first | second
      · exact .inl ⟨some c, fun d same => by cases same; exact first, rfl⟩
      · exact .inr ⟨some c, fun d same => by cases same; exact second, rfl⟩

theorem mem_seq_cons_iff :
    cs ∈ (seq (r :: rs)).language ↔
      ∃ xs ys, xs ∈ r.language ∧ ys ∈ (seq rs).language ∧ xs ++ ys = cs := by
  change cs ∈ r.language * (seq rs).language ↔ _
  rw [Language.mem_mul]
  constructor
  · intro h
    obtain ⟨xs, first, ys, rest, joined⟩ := h
    exact ⟨xs, ys, first, rest, joined⟩
  · intro h
    obtain ⟨xs, ys, first, rest, joined⟩ := h
    exact ⟨xs, first, ys, rest, joined⟩

theorem language_seq_singleton : (seq [r]).language = r.language := by
  change r.language * 1 = r.language
  rw [mul_one]

/-! ## Repetitions -/

theorem mem_plus_of_mem (once : cs ∈ r.language) : cs ∈ (plus r).language := by
  have again : cs ++ [] ∈ (plus r).language :=
    Language.append_mem_mul once (Language.nil_mem_kstar _)
  rwa [List.append_nil] at again

theorem append_mem_plus (once : xs ∈ r.language) (more : ys ∈ (plus r).language) :
    xs ++ ys ∈ (plus r).language := by
  have within : (plus r).language ≤ r.language∗ := mul_kstar_le_kstar
  exact Language.append_mem_mul once (within more)

/-- What holds of one repetition, and of one more in front, holds of any number. -/
theorem plus_induction {P : List Char → Prop} (once : ∀ xs ∈ r.language, P xs)
    (more : ∀ xs ∈ r.language, ∀ ys, P ys → P (xs ++ ys)) (mem : cs ∈ (plus r).language) :
    P cs := by
  obtain ⟨xs, first, rest, ⟨parts, rfl, each⟩, rfl⟩ := Language.mem_mul.mp mem
  clear mem
  induction parts generalizing xs with
  | nil =>
      rw [List.flatten_nil, List.append_nil]
      exact once xs first
  | cons part parts ih =>
      rw [List.flatten_cons]
      have ⟨now, later⟩ := List.forall_mem_cons.mp each
      exact more xs first _ (ih part now later)

theorem mem_plus_oneOf_iff :
    cs ∈ (plus (oneOf s)).language ↔ cs ≠ [] ∧ ∀ c ∈ cs, s.contains c.toNat = true := by
  constructor
  · apply plus_induction
    · intro xs mem
      obtain ⟨c, isIn, rfl⟩ := mem_oneOf_iff.mp mem
      exact ⟨List.cons_ne_nil c [], List.forall_mem_singleton.mpr isIn⟩
    · intro xs mem ys all
      obtain ⟨c, isIn, rfl⟩ := mem_oneOf_iff.mp mem
      exact ⟨List.cons_ne_nil c ys, List.forall_mem_cons.mpr ⟨isIn, all.2⟩⟩
  · intro h
    obtain ⟨nonempty, all⟩ := h
    induction cs with
    | nil => exact (nonempty rfl).elim
    | cons c cs ih =>
        have ⟨now, later⟩ := List.forall_mem_cons.mp all
        have first : [c] ∈ (oneOf s).language := ⟨c, now, rfl⟩
        by_cases last : cs = []
        · subst last
          exact mem_plus_of_mem first
        · exact append_mem_plus first (ih last later)

end Checkup.Lexing.Regex
