import Checkup.Proofs.Syntax.Place

/-!
# Offsets, and the positions they are reported at

An offset is a number of bytes that ends between two characters of a text, or at an end of it.  It
is reported as a line and a column, which count from one.

* `Text.upTo` walks to a line and column; `Text.upTo_behind` comes back to where a place is.
* `Issue.ofPlace_isBefore_iff` orders what is reported exactly as the offsets.
* `offsets_reported_in_order` says both of all offsets of a text.
-/

namespace Checkup

namespace Text

/-- What a walk to a line and column goes past: the lines above that line, with their line feeds,
and the characters of it before that column. -/
def upTo (text : List Char) (line column : Nat) : List Char :=
  ((lines text).take (line - 1)).flatMap (· ++ ['\n']) ++
    ((lines text).getD (line - 1) []).take (column - 1)

/-- The walk to where a text is cut goes past what stands before the cut. -/
theorem upTo_behind (before rest : List Char) :
    upTo (before ++ rest) (before.count '\n' + 1) ((lastLine before).length + 1) = before := by
  unfold upTo
  rw [Nat.add_sub_cancel, Nat.add_sub_cancel, take_lines_append, getD_lines_append, List.take_left]
  exact above_append_lastLine before

end Text

namespace Syntax

/-- What is reported at a place of a text: one more than the line feeds before it, and one more than
the characters since the last of these. -/
theorem Issue.ofPlace_behind {before text : List Char} (inside : before <+: text) (m : String) :
    ofPlace text (.behind before) m =
      ⟨before.count '\n' + 1, (Text.lastLine before).length + 1, m⟩ := by
  unfold ofPlace atRow
  rw [columnOf_behind inside]
  rfl

/-- Whatever the messages are, one place is reported before another one exactly if there are fewer
bytes before it. -/
theorem Issue.ofPlace_isBefore_iff {up down text : List Char} (upIn : up <+: text)
    (downIn : down <+: text) (m m' : String) :
    (ofPlace text (.behind up) m).isBefore (ofPlace text (.behind down) m') = true ↔
      Text.byteLength up < Text.byteLength down := by
  constructor
  · intro before
    apply Nat.lt_of_not_le
    intro le
    exact ofPlace_not_isBefore ⟨down, downIn, rfl⟩ ⟨up, upIn, rfl⟩ le m m' before
  · intro fewer
    rcases Text.prefix_of_byteLength_le upIn downIn (Nat.le_of_lt fewer) with ⟨between, rfl⟩
    have some_between : between ≠ [] := by
      rintro rfl
      rw [List.append_nil] at fewer
      exact Nat.lt_irrefl _ fewer
    have longer := List.length_pos_iff.mpr some_between
    rw [isBefore_iff, ofPlace_behind upIn, ofPlace_behind downIn]
    dsimp only
    rw [List.count_append]
    by_cases feeds : between.count '\n' = 0
    · -- on one line, the second place has more characters before it
      rw [Text.lastLine_append (List.count_eq_zero.mp feeds), List.length_append]
      omega
    · omega

/-- An offset of a text is reported at one more than the line feeds before it, and one more than the
characters since the last of them, and the walk to that line and column ends at the offset.  Of two
offsets, the one with fewer bytes is reported first. -/
theorem offsets_reported_in_order (text : List Char) :
    (∀ b before, Text.takeBytes? b text = some before →
      ∃ above line, before = above ++ line ∧ (above = [] ∨ above.getLast? = some '\n') ∧
        '\n' ∉ line ∧
        Place.behind before = ⟨b, before.count '\n', Text.byteLength line⟩ ∧
        (∀ m, Issue.ofPlace text (.behind before) m =
          ⟨1 + before.count '\n', 1 + line.length, m⟩) ∧
        Text.upTo text (1 + before.count '\n') (1 + line.length) = before) ∧
    ∀ a b up down, Text.takeBytes? a text = some up → Text.takeBytes? b text = some down →
      ∀ m m', (Issue.ofPlace text (.behind up) m).isBefore (Issue.ofPlace text (.behind down) m') =
        true ↔ a < b := by
  constructor
  · intro b before cut
    have ⟨inside, bytes⟩ := Text.takeBytes?_eq_some_iff.mp cut
    refine ⟨Text.above before, Text.lastLine before, (Text.above_append_lastLine before).symm,
      Text.above_eq_nil_or_feed before, Text.feed_not_mem_lastLine before, ?_, ?_, ?_⟩
    · unfold Place.behind
      rw [bytes]
    · intro m
      rw [Nat.add_comm 1, Nat.add_comm 1]
      exact Issue.ofPlace_behind inside m
    · rcases inside with ⟨rest, rfl⟩
      rw [Nat.add_comm 1, Nat.add_comm 1]
      exact Text.upTo_behind before rest
  · intro a b up down cutUp cutDown m m'
    have ⟨upIn, upBytes⟩ := Text.takeBytes?_eq_some_iff.mp cutUp
    have ⟨downIn, downBytes⟩ := Text.takeBytes?_eq_some_iff.mp cutDown
    rw [← upBytes, ← downBytes]
    exact Issue.ofPlace_isBefore_iff upIn downIn m m'

/-- The end of the first line and the middle of the third one, in a text with letters of two bytes
and an empty line. -/
theorem accents_reported_in_order :
    Text.takeBytes? 2 "é\n\nüx".toList = some "é".toList ∧
    Text.takeBytes? 6 "é\n\nüx".toList = some "é\n\nü".toList ∧
    (∃ above line, "é\n\nü".toList = above ++ line ∧ (above = [] ∨ above.getLast? = some '\n') ∧
      '\n' ∉ line ∧ Place.behind "é\n\nü".toList = ⟨6, 2, Text.byteLength line⟩ ∧
      (∀ m, Issue.ofPlace "é\n\nüx".toList (.behind "é\n\nü".toList) m =
        ⟨3, 1 + line.length, m⟩) ∧
      Text.upTo "é\n\nüx".toList 3 (1 + line.length) = "é\n\nü".toList) ∧
    ∀ m m', (Issue.ofPlace "é\n\nüx".toList (.behind "é".toList) m).isBefore
      (Issue.ofPlace "é\n\nüx".toList (.behind "é\n\nü".toList) m') = true := by
  have end_of_line : Text.takeBytes? 2 "é\n\nüx".toList = some "é".toList := by decide
  have middle : Text.takeBytes? 6 "é\n\nüx".toList = some "é\n\nü".toList := by decide
  have ⟨each, order⟩ := offsets_reported_in_order "é\n\nüx".toList
  refine ⟨end_of_line, middle, each 6 _ middle, ?_⟩
  intro m m'
  exact (order 2 6 _ _ end_of_line middle m m').mpr (by decide)

end Syntax

end Checkup
