import Checkup.Text.CharSet

/-!
# What a set of code points contains

Sets are kept as intervals in order, and neighbours that meet are joined.  `contains_ofIntervals`
says that this loses and adds nothing; what the other ways to make a set contain follows from it.
-/

namespace Checkup.CharSet

/-- A code point lies in an interval. -/
def IsIn (c : Nat) (i : Nat × Nat) : Prop := i.1 ≤ c ∧ c ≤ i.2

theorem contains_iff {s : CharSet} {c : Nat} :
    s.contains c = true ↔ ∃ i ∈ s.intervals, IsIn c i := by
  unfold contains
  rw [Array.any_eq_true']
  simp only [Bool.and_eq_true, decide_eq_true_eq]
  rfl

section Intervals

variable {c : Nat} {i : Nat × Nat} {out : Array (Nat × Nat)}

/-- The last interval begins no later than the one that is added. -/
def EndsBefore (out : Array (Nat × Nat)) (i : Nat × Nat) : Prop := ∀ j ∈ out.back?, j.1 ≤ i.1

theorem pushInterval_push (first last : Nat) :
    pushInterval (out.push (first, last)) i =
      if i.1 ≤ last + 1 then out.push (first, max last i.2)
      else (out.push (first, last)).push i := by
  unfold pushInterval
  rw [Array.back?_push, Array.pop_push]

theorem eq_empty_or_push (out : Array (Nat × Nat)) :
    out = #[] ∨ ∃ (before : Array (Nat × Nat)) (first last : Nat),
      out = before.push (first, last) := by
  by_cases nothing : out.size = 0
  · exact .inl (Array.eq_empty_of_size_eq_zero nothing)
  · obtain ⟨before, ⟨first, last⟩, rfl⟩ := Array.eq_push_of_size_ne_zero nothing
    exact .inr ⟨before, first, last, rfl⟩

theorem exists_mem_pushInterval_iff (order : EndsBefore out i) :
    (∃ j ∈ pushInterval out i, IsIn c j) ↔ (∃ j ∈ out, IsIn c j) ∨ IsIn c i := by
  rcases eq_empty_or_push out with rfl | ⟨before, first, last, rfl⟩
  · simp [pushInterval]
  · have begins : first ≤ i.1 := order _ (by rw [Array.back?_push]; rfl)
    rw [pushInterval_push]
    split
    case isTrue meets =>
      -- No code point lies between the two, so one interval has those of both.
      have joined : IsIn c (first, max last i.2) ↔ IsIn c (first, last) ∨ IsIn c i := by
        unfold IsIn
        dsimp only
        omega
      simp only [Array.mem_push, or_and_right, exists_or, exists_eq_left, joined, or_assoc]
    case isFalse => simp only [Array.mem_push, or_and_right, exists_or, exists_eq_left]

theorem EndsBefore.pushInterval {next : Nat × Nat} (order : EndsBefore out i)
    (later : i.1 ≤ next.1) : EndsBefore (pushInterval out i) next := by
  intro j last
  rcases eq_empty_or_push out with rfl | ⟨before, first, stop, rfl⟩
  · cases last
    exact later
  · have begins : first ≤ i.1 := order _ (by rw [Array.back?_push]; rfl)
    rw [pushInterval_push] at last
    split at last
    case isTrue =>
      rw [Array.back?_push] at last
      cases last
      exact Nat.le_trans begins later
    case isFalse =>
      rw [Array.back?_push] at last
      cases last
      exact later

/-- Intervals that come in order can be added one after the other. -/
theorem exists_mem_foldl_iff {is : List (Nat × Nat)} (sorted : is.Pairwise fun a b => a.1 ≤ b.1)
    (order : ∀ i ∈ is, EndsBefore out i) :
    (∃ j ∈ is.foldl pushInterval out, IsIn c j) ↔ (∃ j ∈ out, IsIn c j) ∨ ∃ i ∈ is, IsIn c i := by
  induction is generalizing out with
  | nil => simp
  | cons i is ih =>
      have ⟨first, rest⟩ := List.pairwise_cons.mp sorted
      have now : EndsBefore out i := order i List.mem_cons_self
      rw [List.foldl_cons, ih rest fun next mem => now.pushInterval (first next mem),
        exists_mem_pushInterval_iff now, or_assoc]
      simp only [List.mem_cons, or_and_right, exists_or, exists_eq_left]

end Intervals

theorem contains_ofIntervals {is : Array (Nat × Nat)} {c : Nat} :
    (ofIntervals is).contains c = true ↔ ∃ i ∈ is, IsIn c i := by
  have sorted : (is.toList.mergeSort fun a b => a.1 ≤ b.1).Pairwise fun a b => a.1 ≤ b.1 := by
    have pairwise := @List.pairwise_mergeSort (Nat × Nat) (fun a b => a.1 ≤ b.1)
      (fun a b c => by simpa using Nat.le_trans) (fun a b => by simpa using Nat.le_total a.1 b.1)
      is.toList
    simpa using pairwise
  rw [contains_iff, ofIntervals, exists_mem_foldl_iff sorted (by simp [EndsBefore])]
  simp

theorem contains_ofChars {s : String} {c : Char} :
    (ofChars s).contains c.toNat = true ↔ c ∈ s.toList := by
  unfold ofChars
  rw [contains_ofIntervals]
  constructor
  · intro h
    obtain ⟨i, mem, begins, ends⟩ := h
    simp only [List.mem_toArray, List.mem_map] at mem
    obtain ⟨d, mem, rfl⟩ := mem
    have same : d = c := Char.toNat_inj.mp (Nat.le_antisymm begins ends)
    rwa [← same]
  · intro mem
    exact ⟨(c.toNat, c.toNat), by simpa using ⟨c, mem, rfl⟩, Nat.le_refl _, Nat.le_refl _⟩

theorem contains_between {a b c : Char} :
    (between a b).contains c.toNat = true ↔ a ≤ c ∧ c ≤ b := by
  unfold between
  rw [contains_ofIntervals]
  simp only [List.mem_toArray, List.mem_singleton, exists_eq_left]
  rfl

theorem contains_union {s t : CharSet} {c : Nat} :
    (s ∪ t).contains c = true ↔ s.contains c = true ∨ t.contains c = true := by
  have whole : s ∪ t = ofIntervals (s.intervals ++ t.intervals) := rfl
  rw [whole, contains_ofIntervals, contains_iff, contains_iff]
  simp only [Array.mem_append, or_and_right, exists_or]

end Checkup.CharSet
