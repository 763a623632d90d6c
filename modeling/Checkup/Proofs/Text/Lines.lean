import Checkup.Text.Blank

/-!
# Cutting a text

A text is cut between characters by a number of bytes, and into lines at its line feeds.

* `takeBytes?_eq_some_iff` finds the prefix of a number of bytes, if there is one.
* `prefix_of_byteLength_le` orders the prefixes of a text by their bytes.
* `lines_append` joins the last line of a text and the first one of what stands behind it.
-/

namespace Checkup.Text

/-! ## Bytes -/

@[simp] theorem byteLength_append (a b : List Char) :
    byteLength (a ++ b) = byteLength a + byteLength b := by
  induction a with
  | nil => simp only [List.nil_append, byteLength, Nat.zero_add]
  | cons c a ih => simp only [List.cons_append, byteLength, ih, Nat.add_assoc]

@[simp] theorem byteLength_eq_zero {cs : List Char} : byteLength cs = 0 ↔ cs = [] := by
  cases cs with
  | nil => simp only [byteLength]
  | cons c cs =>
      have positive := c.utf8Size_pos
      simp only [byteLength, reduceCtorEq, iff_false]
      omega

/-- The bytes of a prefix are cut off between characters. -/
theorem takeBytes?_append (a b : List Char) : takeBytes? (byteLength a) (a ++ b) = some a := by
  induction a with
  | nil => exact takeBytes?.eq_1 b
  | cons c a ih =>
      have positive := c.utf8Size_pos
      obtain ⟨n, size⟩ : ∃ n, byteLength (c :: a) = n + 1 :=
        ⟨byteLength (c :: a) - 1, by rw [byteLength]; omega⟩
      have rest : n + 1 - c.utf8Size = byteLength a := by rw [← size, byteLength]; omega
      rw [size, List.cons_append, takeBytes?, if_pos (by rw [← size, byteLength]; omega), rest, ih]
      rfl

/-- What is cut off by a number of bytes is the prefix of so many bytes. -/
theorem takeBytes?_eq_some_iff {n : Nat} {before text : List Char} :
    takeBytes? n text = some before ↔ before <+: text ∧ byteLength before = n := by
  constructor
  · intro cut
    fun_induction takeBytes? n text generalizing before with
    | case1 text =>
        cases cut
        exact ⟨List.nil_prefix, rfl⟩
    | case2 => cases cut
    | case3 n c text fits ih =>
        rcases Option.map_eq_some_iff.mp cut with ⟨rest, behind, rfl⟩
        have ⟨inside, bytes⟩ := ih behind
        refine ⟨List.cons_prefix_cons.mpr ⟨rfl, inside⟩, ?_⟩
        rw [byteLength, bytes]
        omega
    | case4 => cases cut
  · rintro ⟨⟨rest, rfl⟩, rfl⟩
    exact takeBytes?_append before rest

/-- Of two prefixes of a text, the one with fewer bytes is a prefix of the other one. -/
theorem prefix_of_byteLength_le {a b text : List Char} (ha : a <+: text) (hb : b <+: text)
    (le : byteLength a ≤ byteLength b) : a <+: b := by
  rcases List.prefix_or_prefix_of_prefix ha hb with inside | ⟨rest, rfl⟩
  · exact inside
  · rw [byteLength_append] at le
    have none : rest = [] := byteLength_eq_zero.mp (by omega)
    exact ⟨[], by rw [none, List.append_nil, List.append_nil]⟩

/-! ## Lines -/

/-- The line in which a text begins. -/
def firstLine (cs : List Char) : List Char := (lines cs).headD []

/-- The line in which a text ends. -/
def lastLine (cs : List Char) : List Char := (lines cs).getLastD []

theorem lines_eq_cons (cs : List Char) : ∃ rest, lines cs = firstLine cs :: rest := by
  unfold firstLine
  cases cs with
  | nil => exact ⟨[], rfl⟩
  | cons c cs =>
      rw [lines]
      split
      · exact ⟨lines cs, rfl⟩
      · cases lines cs with
        | nil => exact ⟨[], rfl⟩
        | cons l ls => exact ⟨ls, rfl⟩

theorem lines_feed (cs : List Char) : lines ('\n' :: cs) = [] :: lines cs := by
  rw [lines, if_pos rfl]

theorem lines_cons {c : Char} {cs : List Char} (other : c ≠ '\n') :
    lines (c :: cs) = (c :: firstLine cs) :: (lines cs).tail := by
  obtain ⟨rest, split⟩ := lines_eq_cons cs
  rw [lines, if_neg other, split]
  rfl

/-- There is one more line than line feeds. -/
theorem length_lines (cs : List Char) : (lines cs).length = cs.count '\n' + 1 := by
  induction cs with
  | nil => rfl
  | cons c cs ih =>
      by_cases feed : c = '\n'
      · rw [feed, lines_feed, List.count_cons_self, List.length_cons, ih]
      · rw [lines_cons feed, List.count_cons_of_ne feed, ← ih]
        obtain ⟨rest, split⟩ := lines_eq_cons cs
        rw [split]
        rfl

/-- Behind a text, the last line goes on and the others follow. -/
theorem lines_append (a b : List Char) :
    lines (a ++ b) = (lines a).dropLast ++ (lastLine a ++ firstLine b) :: (lines b).tail := by
  induction a with
  | nil =>
      obtain ⟨rest, split⟩ := lines_eq_cons b
      rw [List.nil_append, split]
      rfl
  | cons c a ih =>
      obtain ⟨rest, split⟩ := lines_eq_cons a
      by_cases feed : c = '\n'
      · rw [feed, List.cons_append, lines_feed, ih, lines_feed, lastLine, lastLine, lines_feed,
          split]
        rfl
      · rw [List.cons_append, lines_cons feed, firstLine, ih, lines_cons feed, lastLine, lastLine,
          lines_cons feed, split]
        cases rest <;> rfl

/-- There are as many lines above the last one as line feeds. -/
theorem length_dropLast_lines (cs : List Char) : (lines cs).dropLast.length = cs.count '\n' := by
  rw [List.length_dropLast, length_lines, Nat.add_sub_cancel]

/-- The lines above the one that a cut of a text falls into. -/
theorem take_lines_append (a b : List Char) :
    (lines (a ++ b)).take (a.count '\n') = (lines a).dropLast := by
  rw [lines_append, ← length_dropLast_lines, List.take_left]

/-- The line that a cut of a text falls into. -/
theorem getD_lines_append (a b : List Char) :
    (lines (a ++ b)).getD (a.count '\n') [] = lastLine a ++ firstLine b := by
  have upper := length_dropLast_lines a
  rw [lines_append, List.getD_eq_getElem?_getD, List.getElem?_append_right (by omega), upper,
    Nat.sub_self]
  rfl

/-- The text up to its last line: the lines above, each with the line feed that ends it. -/
def above (cs : List Char) : List Char := (lines cs).dropLast.flatMap (· ++ ['\n'])

theorem above_append_lastLine (cs : List Char) : above cs ++ lastLine cs = cs := by
  induction cs with
  | nil => rfl
  | cons c cs ih =>
      obtain ⟨rest, split⟩ := lines_eq_cons cs
      unfold above lastLine at ih ⊢
      by_cases feed : c = '\n'
      · rw [split] at ih
        rw [feed, lines_feed, split]
        exact congrArg ('\n' :: ·) ih
      · rw [split] at ih
        rw [lines_cons feed, split]
        -- the first line is also the last one, or stands above it
        cases rest with
        | nil => exact congrArg (c :: ·) ih
        | cons line rest => exact congrArg (c :: ·) ih

/-- What stands above a line is empty or ends in a line feed. -/
theorem above_eq_nil_or_feed (cs : List Char) :
    above cs = [] ∨ (above cs).getLast? = some '\n' := by
  unfold above
  rcases List.eq_nil_or_concat (lines cs).dropLast with none | ⟨upper, line, split⟩
  · exact .inl (by rw [none]; rfl)
  · right
    rw [split, List.concat_eq_append, List.flatMap_append, List.flatMap_singleton,
      ← List.append_assoc, List.getLast?_concat]

theorem lines_of_not_mem {cs : List Char} (none : '\n' ∉ cs) : lines cs = [cs] := by
  induction cs with
  | nil => rfl
  | cons c cs ih =>
      obtain ⟨other, rest⟩ := not_or.mp (mt List.mem_cons.mpr none)
      rw [lines_cons (Ne.symm other), firstLine, ih rest]
      rfl

/-- A line feed ends a line. -/
theorem lines_append_feed {a : List Char} (none : '\n' ∉ a) (b : List Char) :
    lines (a ++ '\n' :: b) = a :: lines b := by
  rw [lines_append, lastLine, firstLine, lines_of_not_mem none, lines_feed]
  exact congrArg (· :: lines b) (List.append_nil a)

theorem feed_not_mem {line cs : List Char} (mem : line ∈ lines cs) : '\n' ∉ line := by
  induction cs generalizing line with
  | nil =>
      cases List.mem_singleton.mp mem
      exact List.not_mem_nil
  | cons c cs ih =>
      by_cases feed : c = '\n'
      · rw [feed, lines_feed] at mem
        rcases List.mem_cons.mp mem with rfl | later
        · exact List.not_mem_nil
        · exact ih later
      · obtain ⟨rest, split⟩ := lines_eq_cons cs
        rw [lines_cons feed] at mem
        rcases List.mem_cons.mp mem with rfl | later
        · have first : firstLine cs ∈ lines cs := by
            rw [split]
            exact List.mem_cons_self
          exact fun within => (List.mem_cons.mp within).elim (Ne.symm feed) (ih first)
        · exact ih (List.mem_of_mem_tail later)

theorem feed_not_mem_lastLine (cs : List Char) : '\n' ∉ lastLine cs := by
  obtain ⟨rest, split⟩ := lines_eq_cons cs
  have member : lastLine cs ∈ lines cs := by
    unfold lastLine
    rw [split, List.getLastD_eq_getLast?, List.getLast?_eq_some_getLast (List.cons_ne_nil _ _)]
    exact List.getLast_mem _
  exact feed_not_mem member

/-- Without a line feed, more text only makes the last line longer. -/
theorem lastLine_append {a b : List Char} (none : '\n' ∉ b) :
    lastLine (a ++ b) = lastLine a ++ b := by
  rw [lastLine, lines_append, firstLine, lines_of_not_mem none]
  exact List.getLastD_concat

/-- Behind a line feed, an empty line begins. -/
theorem lastLine_of_ended {cs : List Char} (ended : cs = [] ∨ cs.getLast? = some '\n') :
    lastLine cs = [] := by
  rcases ended with rfl | feed
  · rfl
  · obtain ⟨before, rfl⟩ := List.getLast?_eq_some_iff.mp feed
    rw [lastLine, lines_append, List.getLastD_eq_getLast?, List.getLast?_append]
    rfl

theorem lines_of_ended {cs : List Char} (ended : cs = [] ∨ cs.getLast? = some '\n') :
    lines cs = (lines cs).dropLast ++ [[]] := by
  have whole := lines_append cs []
  rwa [List.append_nil, lastLine_of_ended ended] at whole

/-- Behind whole lines, the lines of a text are those that it has on its own. -/
theorem lines_append_of_ended {a : List Char} (ended : a = [] ∨ a.getLast? = some '\n')
    (b : List Char) : lines (a ++ b) = (lines a).dropLast ++ lines b := by
  obtain ⟨rest, split⟩ := lines_eq_cons b
  rw [lines_append, lastLine_of_ended ended, List.nil_append, split]
  rfl

end Checkup.Text
