import Checkup.Proofs.Syntax.Preorder
import Checkup.Proofs.Text.Trim

/-!
# Where a missing body is reported

* `IsIdle` is a line without code, and `isCode_eq_false_iff` says that the rule tells such lines by
  taking their blanks off.
* `IsExpectedAt` is the line and column at which the body should begin: behind the blanks of the
  next line of code below the header, or right below the header if there is no such line.
* `missing_body_reported`: an empty block is reported there.
-/

namespace Checkup.Syntax

namespace Block

variable {line : List Char} {ls : List (List Char)} {row : Nat}

/-! ## Lines without code -/

/-- Nothing but blanks, or a comment behind blanks. -/
def IsIdle (line : List Char) : Prop :=
  Text.IsBlanks line ∨ ∃ indent comment, Text.IsBlanks indent ∧ line = indent ++ '#' :: comment

theorem isCode_eq_false_iff : isCode line = false ↔ IsIdle line := by
  have trimmed : isCode line = false ↔
      Text.trim line = [] ∨ (Text.trim line).head? = some '#' := by
    unfold isCode
    cases Text.trim line <;> simp
  unfold IsIdle
  rw [trimmed, Text.trim_eq_nil_iff, Text.head?_trim_eq_some_iff (by decide)]

theorem isCode_iff : isCode line = true ↔ ¬ IsIdle line := by
  rw [← isCode_eq_false_iff, Bool.not_eq_false]

instance (line : List Char) : Decidable (IsIdle line) := decidable_of_iff _ isCode_eq_false_iff

/-! ## The next line of code -/

/-- There is no code in lines that hold none. -/
theorem nextCode?_of_idle (idle : ∀ l ∈ ls, IsIdle l) : nextCode? row ls = none := by
  induction ls generalizing row with
  | nil => rfl
  | cons l ls ih =>
      have ⟨first, rest⟩ := List.forall_mem_cons.mp idle
      rw [nextCode?, isCode_eq_false_iff.mpr first, if_neg Bool.false_ne_true]
      exact ih rest

/-- Code is found behind lines that hold none. -/
theorem nextCode?_append {idle : List (List Char)} (above : ∀ l ∈ idle, IsIdle l)
    (code : ¬ IsIdle line) (rest : List (List Char)) :
    nextCode? row (idle ++ line :: rest) = some (row + idle.length, line) := by
  induction idle generalizing row with
  | nil => rw [List.nil_append, nextCode?, if_pos (isCode_iff.mpr code)]; rfl
  | cons l idle ih =>
      have ⟨first, further⟩ := List.forall_mem_cons.mp above
      rw [List.cons_append, nextCode?, isCode_eq_false_iff.mpr first, if_neg Bool.false_ne_true,
        ih further, List.length_cons, Nat.add_assoc, Nat.add_comm 1]

/-! ## Where the body is expected -/

/-- The line and column, counted from one, at which the body of a statement is expected whose header
ends on a row, counted from zero. -/
inductive IsExpectedAt (text : List Char) (header : Nat) : Nat → Nat → Prop
  | code {idle rest : List (List Char)} {line : List Char} :
    (Text.lines text).drop (header + 1) = idle ++ line :: rest → (∀ l ∈ idle, IsIdle l) →
    ¬ IsIdle line →
    IsExpectedAt text header (header + 2 + idle.length) ((line.takeWhile Text.isBlank).length + 1)
  | nothing : (∀ l ∈ (Text.lines text).drop (header + 1), IsIdle l) →
    IsExpectedAt text header (header + 2) 1

/-- A line found below some others is one of the text. -/
theorem getElem?_of_drop {text : List Char} {header : Nat} {idle rest : List (List Char)}
    (split : (Text.lines text).drop (header + 1) = idle ++ line :: rest) :
    (Text.lines text)[header + 1 + idle.length]? = some line := by
  rw [← List.getElem?_drop, split, List.getElem?_append_right (Nat.le_refl _), Nat.sub_self]
  rfl

/-- The column behind the blanks of a line. -/
theorem columnOf_blanks {text : List Char} (at_row : (Text.lines text)[row]? = some line) :
    columnOf text row (Text.byteLength line - Text.byteLength (Text.trimStart line)) =
      (line.takeWhile Text.isBlank).length + 1 := by
  have bytes : Text.byteLength line - Text.byteLength (Text.trimStart line) =
      Text.byteLength (line.takeWhile Text.isBlank) := by
    have whole := congrArg Text.byteLength (Text.takeWhile_append_trimStart line)
    rw [Text.byteLength_append] at whole
    omega
  rw [bytes]
  apply columnOf_prefix
  rw [List.getD_eq_getElem?_getD, at_row]
  exact List.takeWhile_prefix _

/-- The body is expected somewhere. -/
theorem exists_isExpectedAt (text : List Char) (header : Nat) :
    ∃ line column, IsExpectedAt text header line column := by
  cases next : ((Text.lines text).drop (header + 1)).find? isCode with
  | none =>
      have idle := List.find?_eq_none.mp next
      exact ⟨_, _, .nothing fun l mem => isCode_eq_false_iff.mp (Bool.not_eq_true _ ▸ idle l mem)⟩
  | some line =>
      have ⟨code, idle, rest, split, above⟩ := List.find?_eq_some_iff_append.mp next
      refine ⟨_, _, .code split (fun l mem => ?_) (isCode_iff.mp code)⟩
      exact isCode_eq_false_iff.mp (Bool.not_eq_true' _ ▸ above l mem)

/-- It is expected where it is found missing. -/
theorem missingIssue_of_isExpectedAt {text : List Char} {header number column : Nat}
    (expected : IsExpectedAt text header number column) :
    missingIssue text header = ⟨number, column, message⟩ := by
  unfold missingIssue
  cases expected with
  | code split above code =>
      rw [split, nextCode?_append above code]
      dsimp only [Issue.atRow]
      rw [columnOf_blanks (getElem?_of_drop split), Nat.add_right_comm]
  | nothing idle =>
      have start : columnOf text (header + 1) 0 = 1 := columnOf_prefix List.nil_prefix
      rw [nextCode?_of_idle idle]
      dsimp only [Issue.atRow]
      rw [start]

end Block

/-! ## The rule -/

/-- The row on which the header of a block ends: that of the end of the colon right before the block,
or that of the block itself if there is no colon right before it. -/
inductive Occurrence.EndsHeader (o : Occurrence) : Nat → Prop
  | colon {colon : Node} : o.before = some colon → colon.kind = ":" → EndsHeader o colon.stop.row
  | own : (∀ n, o.before = some n → n.kind ≠ ":") → EndsHeader o o.node.start.row

theorem Occurrence.endsHeader_iff {o : Occurrence} {header : Nat} :
    o.EndsHeader header ↔ Block.headerRow o.before o.node = header := by
  unfold Block.headerRow
  constructor
  · intro ends
    cases ends with
    | colon before kind => simp [before, kind]
    | own other =>
        split
        · rename_i n before
          rw [if_neg (other n before)]
        · rfl
  · intro same
    subst same
    split
    · rename_i n before
      split
      case isTrue kind => exact .colon before kind
      case isFalse kind => exact .own fun m here => by cases before.symm.trans here; exact kind
    · rename_i none
      exact .own fun m here => by cases none.symm.trans here

theorem Occurrence.issue?_block {o : Occurrence} (block : o.node.kind = "block")
    (text : List Char) :
    o.issue? text =
      if o.node.parts.isEmpty then some (Block.missingIssue text (Block.headerRow o.before o.node))
      else none := by
  simp only [issue?, block]

/-- The body of an empty block is expected at one line and column, and reported missing there. -/
theorem missing_body_reported {o : Occurrence} {header : Nat} (block : o.node.kind = "block")
    (empty : o.node.parts = []) (ends : o.EndsHeader header) (text : List Char) :
    ∃ line column,
      (∀ l c, Block.IsExpectedAt text header l c ↔ l = line ∧ c = column) ∧
      o.issue? text = some ⟨line, column, "expected an indented block"⟩ := by
  obtain ⟨line, column, expected⟩ := Block.exists_isExpectedAt text header
  have issue := Block.missingIssue_of_isExpectedAt expected
  refine ⟨line, column, fun l c => ⟨fun other => ?_, ?_⟩, ?_⟩
  · rw [Block.missingIssue_of_isExpectedAt other] at issue
    cases issue
    exact ⟨rfl, rfl⟩
  · intro same
    rw [same.1, same.2]
    exact expected
  · rw [Occurrence.issue?_block block, empty, Occurrence.endsHeader_iff.mp ends, issue]
    rfl

/-- The block in `if ü:`, behind the colon. -/
def headerOnly : Occurrence where
  node := onLine "block" true 6 6 []
  before := some (onLine ":" false 5 6 [])

/-- An empty line and a comment are passed over.  The two blanks before the code count as two, though
they are four bytes. -/
theorem headerOnly_reported :
    headerOnly.node.kind = "block" ∧ headerOnly.node.parts = [] ∧ headerOnly.EndsHeader 0 ∧
    headerOnly.issue? "if ü:\n\n\u2003# é\n\u3000 b".toList =
      some ⟨4, 3, "expected an indented block"⟩ := by
  have ends : headerOnly.EndsHeader (onLine ":" false 5 6 []).stop.row := .colon rfl rfl
  have below : (Text.lines "if ü:\n\n\u2003# é\n\u3000 b".toList).drop 1 =
      [[], "\u2003# é".toList] ++ "\u3000 b".toList :: [] := by decide
  have expected := Block.IsExpectedAt.code below (by decide) (by decide)
  have ⟨line, column, same, issue⟩ := missing_body_reported rfl rfl ends
    "if ü:\n\n\u2003# é\n\u3000 b".toList
  obtain ⟨rfl, rfl⟩ := (same _ _).mp expected
  exact ⟨rfl, rfl, ends, issue⟩

end Checkup.Syntax
