import Checkup.Proofs.Indentation.Indent
import Checkup.Proofs.Indentation.Lexemes
import Checkup.Proofs.Indentation.Replay

/-!
# The lines that are measured

The rule for indentation goes through the leaves of a tree with a count of what is open.  It
measures the lines on which logical lines begin, and no others.

* `Progress.IsBehind` is what the pass knows behind some lexemes; `IsBehind.pass` keeps it, and
  `IsBehind.startsLine_iff` reads off it whether a logical line begins.
* `issue?_eq_misfit?`: the issue is the first of the opener rows whose line does not fit.
* `measures_opener_rows` says which this is, and that no other line matters.
-/

namespace Checkup.Syntax.Indentation

/-- The line on a row of a text, empty if there is none. -/
def lineAt (text : List Char) (row : Nat) : List Char := (Text.lines text).getD row []

/-! ## The first line that does not fit -/

/-- The first of some rows whose line does not fit the levels open there. -/
def misfit? (text : List Char) (levels : Levels) : List Nat → Option (Nat × IndentationFault)
  | [] => none
  | row :: rows =>
    match levels.step (measure (lineAt text row)) with
    | .error fault => some (row, fault)
    | .ok next => misfit? text next rows

theorem misfit?_eq_none_iff (text : List Char) (rows : List Nat) (levels : Levels) :
    misfit? text levels rows = none ↔
      ∃ next, levels.replay (rows.map fun row => measure (lineAt text row)) = .ok next := by
  induction rows generalizing levels with
  | nil => exact ⟨fun _ => ⟨levels, rfl⟩, fun _ => rfl⟩
  | cons row rows ih =>
      rw [List.map_cons, Levels.replay_cons, misfit?]
      cases levels.step (measure (lineAt text row)) with
      | error fault => simp
      | ok next => exact ih next

theorem misfit?_eq_some {text : List Char} {rows : List Nat} {levels : Levels} {row : Nat}
    {fault : IndentationFault} (found : misfit? text levels rows = some (row, fault)) :
    ∃ seen rest between, rows = seen ++ row :: rest ∧
      levels.replay (seen.map fun row => measure (lineAt text row)) = .ok between ∧
      between.step (measure (lineAt text row)) = .error fault := by
  induction rows generalizing levels with
  | nil => cases found
  | cons first rows ih =>
      rw [misfit?] at found
      cases step : levels.step (measure (lineAt text first)) with
      | error other =>
          rw [step] at found
          cases found
          exact ⟨[], rows, levels, rfl, rfl, step⟩
      | ok next =>
          rw [step] at found
          rcases ih found with ⟨seen, rest, between, rfl, accepted, rejected⟩
          refine ⟨first :: seen, rest, between, rfl, ?_, rejected⟩
          rw [List.map_cons, Levels.replay_cons, step]
          exact accepted

/-- Only the lines on the rows matter. -/
theorem misfit?_congr {text text' : List Char} {rows : List Nat}
    (same : ∀ row ∈ rows, lineAt text' row = lineAt text row) (levels : Levels) :
    misfit? text' levels rows = misfit? text levels rows := by
  induction rows generalizing levels with
  | nil => rfl
  | cons row rows ih =>
      have ⟨first, rest⟩ := List.forall_mem_cons.mp same
      rw [misfit?, misfit?, first]
      cases levels.step (measure (lineAt text row)) with
      | error fault => rfl
      | ok next => exact ih rest next

theorem mem_of_misfit?_eq_some {text : List Char} {rows : List Nat} {levels : Levels} {row : Nat}
    {fault : IndentationFault} (found : misfit? text levels rows = some (row, fault)) :
    row ∈ rows := by
  rcases misfit?_eq_some found with ⟨seen, rest, _, rfl, _⟩
  exact List.mem_append_right seen List.mem_cons_self

/-! ## The pass over the leaves -/

/-- What a pass knows behind some lexemes, apart from the levels: on which row the last of them
ends, and how many brackets and strings they leave open. -/
structure Progress.IsBehind (p : Progress) (before : List Lexeme) : Prop where
  lastRow : p.lastRow = before.getLast?.map Lexeme.lastRow
  brackets : p.brackets = Pairing.brackets.depth before
  strings : p.strings = Pairing.strings.depth before

namespace Progress.IsBehind

variable {p : Progress} {before : List Lexeme}

theorem withLevels (behind : p.IsBehind before) (levels : Levels) :
    { p with levels }.IsBehind before :=
  ⟨behind.lastRow, behind.brackets, behind.strings⟩

/-- One more leaf is counted. -/
theorem pass (behind : p.IsBehind before) (leaf : Node) :
    (p.pass leaf).IsBehind (before ++ [.ofLeaf leaf]) := by
  constructor
  · rw [List.getLast?_concat]
    rfl
  · rw [Pairing.depth_concat, ← behind.brackets]
    rfl
  · rw [Pairing.depth_concat, ← behind.strings]
    simp [Progress.pass, Pairing.pass, Pairing.opens, Pairing.closes, Pairing.strings,
      Lexeme.ofLeaf]

/-- The pass finds out where logical lines begin. -/
theorem startsLine_iff (behind : p.IsBehind before) (leaf : Node) :
    p.startsLine leaf = true ↔ OpensLine before (.ofLeaf leaf) := by
  have brackets := Pairing.brackets.depth_eq_zero_iff before
  have strings := Pairing.strings.depth_eq_zero_iff before
  rw [← behind.brackets] at brackets
  rw [← behind.strings] at strings
  have counted : p.startsLine leaf = true ↔
      (∀ last ∈ before.getLast?, last.lastRow < leaf.start.row) ∧
        p.brackets = 0 ∧ p.strings = 0 := by
    unfold Progress.startsLine
    rw [behind.lastRow]
    cases before.getLast? with
    | none => simp
    | some last => simp [and_assoc]
  rw [counted, brackets, strings]
  exact ⟨fun ⟨row, closed, ended⟩ => ⟨row, closed, ended⟩,
    fun opens => ⟨opens.new_row, opens.brackets, opens.strings⟩⟩

end Progress.IsBehind

/-- The pass stops at the first of the rows on which logical lines begin whose line does not fit. -/
theorem faultFrom?_eq (text : List Char) (leaves : List Node) {p : Progress}
    {before : List Lexeme} (behind : p.IsBehind before) :
    faultFrom? (Text.lines text).toArray p leaves =
      (misfit? text p.levels (openerRows before (lexemesOf leaves))).map fun (row, fault) =>
        (row, indentBytes (lineAt text row), fault) := by
  induction leaves generalizing p before with
  | nil => rfl
  | cons leaf leaves ih =>
      rw [faultFrom?]
      cases ignored : isIgnored leaf with
      | true =>
          have passed : lexemesOf (leaf :: leaves) = lexemesOf leaves := by
            simp [lexemesOf, ignored]
          rw [passed, if_pos rfl]
          exact ih behind
      | false =>
          have kept : lexemesOf (leaf :: leaves) = .ofLeaf leaf :: lexemesOf leaves := by
            simp [lexemesOf, ignored]
          have line : (Text.lines text).toArray.getD leaf.start.row [] =
              lineAt text leaf.start.row := by
            simp [lineAt]
          rw [kept, openerRows, if_neg Bool.false_ne_true, line]
          by_cases opens : OpensLine before (.ofLeaf leaf)
          · rw [if_pos ((behind.startsLine_iff leaf).mpr opens), if_pos opens, misfit?]
            dsimp only [Lexeme.ofLeaf]
            cases p.levels.step (measure (lineAt text leaf.start.row)) with
            | error fault => rfl
            | ok next => exact ih ((behind.withLevels next).pass leaf)
          · rw [if_neg fun starts => opens ((behind.startsLine_iff leaf).mp starts), if_neg opens]
            exact ih (behind.pass leaf)

/-- The column behind an indent counts its characters. -/
theorem columnOf_indent (text : List Char) (row : Nat) :
    columnOf text row (indentBytes (lineAt text row)) =
      (indentOf (lineAt text row)).length + 1 := by
  apply columnOf_prefix
  exact List.takeWhile_prefix _

/-- The issue with the first row whose line does not fit. -/
theorem issue?_eq_misfit? (text : List Char) (root : Node) :
    issue? text root =
      (misfit? text Levels.start (openerRows [] (lexemes root))).map fun (row, fault) =>
        ⟨row + 1, 1 + (indentOf (lineAt text row)).length, fault.message⟩ := by
  have begins : Progress.IsBehind {} [] := ⟨rfl, rfl, rfl⟩
  unfold issue? lexemes
  rw [← Node.leaves_eq_filter, faultFrom?_eq text root.leaves begins, Option.map_map]
  congr 1
  funext (row, fault)
  dsimp only [Function.comp, Issue.atRow]
  rw [columnOf_indent, Nat.add_comm 1]

/-- Only the lines that do not continue others matter, for lexemes that come one after the other. -/
theorem issue?_congr {text text' : List Char} {root root' : Node} (rows : InRows (lexemes root))
    (lexemes_same : lexemes root' = lexemes root)
    (lines_same : ∀ row, ¬ Continues (lexemes root) row → lineAt text' row = lineAt text row) :
    issue? text' root' = issue? text root := by
  have opener_same (row : Nat) (mem : row ∈ openerRows [] (lexemes root)) :
      lineAt text' row = lineAt text row :=
    lines_same row (not_continues_of_mem_openerRows rows mem)
  rw [issue?_eq_misfit?, issue?_eq_misfit?, lexemes_same, misfit?_congr opener_same]
  cases found : misfit? text Levels.start (openerRows [] (lexemes root)) with
  | none => rfl
  | some first =>
      rcases first with ⟨row, fault⟩
      rw [Option.map_some, Option.map_some]
      dsimp only
      rw [opener_same row (mem_of_misfit?_eq_some found)]

/-- The leaves of a tree over a text, come by with a stack, say on which rows logical lines begin:
further and further down, where all brackets and strings are closed.  The lines on these rows fit,
or the first of them that does not is reported, behind its indent.  No other line matters: those
that go on with a logical line may be indented in any other way, as long as the lexemes keep their
kinds and rows. -/
theorem measures_opener_rows {text : List Char} {root : Node} (lies : root.IsOver text)
    (ends : ∀ m ∈ root.preorder, m.stop.IsIn text) :
    root.leaves = Node.walkLeaves [root] ∧
    (openerRows [] (lexemes root)).Pairwise (· < ·) ∧
    (∀ p : Pairing, p.IsBalanced (lexemes root) → ∀ before, before <+: lexemes root →
      (p.IsClosed before ↔ before.countP p.closes = before.countP p.opens)) ∧
    (issue? text root = none ↔ ∃ levels, Levels.start.replay
      ((openerRows [] (lexemes root)).map fun row => measure (lineAt text row)) = .ok levels) ∧
    (∀ i, issue? text root = some i → ∃ seen row rest levels fault,
      openerRows [] (lexemes root) = seen ++ row :: rest ∧
      Levels.start.replay (seen.map fun row => measure (lineAt text row)) = .ok levels ∧
      levels.step (measure (lineAt text row)) = .error fault ∧
      i = ⟨row + 1, 1 + (indentOf (lineAt text row)).length, fault.message⟩) ∧
    ∀ text' root', lexemes root' = lexemes root →
      (∀ row, ¬ Continues (lexemes root) row → lineAt text' row = lineAt text row) →
      issue? text' root' = issue? text root := by
  have rows := lexemes_inRows lies ends
  refine ⟨(Node.walkLeaves_root root).symm, openerRows_increasing rows, ?_, ?_, ?_,
    fun _ _ => issue?_congr rows⟩
  · intro p balanced before inside
    exact (balanced.of_prefix inside).isClosed_iff
  · rw [issue?_eq_misfit?, Option.map_eq_none_iff]
    exact misfit?_eq_none_iff text _ _
  · intro i found
    rw [issue?_eq_misfit?] at found
    rcases Option.map_eq_some_iff.mp found with ⟨⟨row, fault⟩, first, rfl⟩
    rcases misfit?_eq_some first with ⟨seen, rest, levels, split, accepted, rejected⟩
    exact ⟨seen, row, rest, levels, fault, split, accepted, rejected, rfl⟩

/-- A call whose argument is on a line of its own, behind some blanks, and a line that does not fit
that of the call. -/
def callText (blanks : List Char) : List Char :=
  "if a:\n\tf(\n".toList ++ blanks ++ "b)\n        g\n".toList

/-- The tree of such a program with so many blanks before the argument. -/
def callTree (blanks : Nat) : Node :=
  let piece (kind : String) (start stop : Place) (children : List Node) : Node :=
    { kind, named := true, start, stop, children }
  let behind (byte column : Nat) : Place := ⟨blanks + byte, 2, blanks + column⟩
  let last : Place := ⟨blanks + 22, 3, 9⟩
  piece "module" ⟨0, 0, 0⟩ last [
    piece "if_statement" ⟨0, 0, 0⟩ last [
      piece "if" ⟨0, 0, 0⟩ ⟨2, 0, 2⟩ [],
      piece "identifier" ⟨3, 0, 3⟩ ⟨4, 0, 4⟩ [],
      piece ":" ⟨4, 0, 4⟩ ⟨5, 0, 5⟩ [],
      piece "block" ⟨7, 1, 1⟩ last [
        piece "call" ⟨7, 1, 1⟩ (behind 12 2) [
          piece "identifier" ⟨7, 1, 1⟩ ⟨8, 1, 2⟩ [],
          piece "argument_list" ⟨8, 1, 2⟩ (behind 12 2) [
            piece "(" ⟨8, 1, 2⟩ ⟨9, 1, 3⟩ [],
            piece "identifier" (behind 10 0) (behind 11 1) [],
            piece ")" (behind 11 1) (behind 12 2) []]],
        piece "identifier" ⟨blanks + 21, 3, 8⟩ last []]]]

/-- The line that does not fit is reported, and however the argument is indented. -/
theorem call_reindented :
    (callTree 1).IsOver (callText [' ']) ∧
    (∀ m ∈ (callTree 1).preorder, m.stop.IsIn (callText [' '])) ∧
    openerRows [] (lexemes (callTree 1)) = [0, 1, 3] ∧
    issue? (callText [' ']) (callTree 1) =
      some ⟨4, 9, "inconsistent use of tabs and spaces in indentation"⟩ ∧
    issue? (callText ['\t', '\t']) (callTree 2) = issue? (callText [' ']) (callTree 1) := by
  have lies : (callTree 1).IsOver (callText [' ']) := by decide
  have ends : ∀ m ∈ (callTree 1).preorder, m.stop.IsIn (callText [' ']) := by decide
  have ⟨_, _, _, _, _, reindented⟩ := measures_opener_rows lies ends
  refine ⟨lies, ends, by decide, by decide, reindented _ _ (by decide) ?_⟩
  intro row fits
  match row with
  | 0 => decide
  | 1 => decide
  | 2 => exact absurd (.inBrackets (by decide)) fits
  | row + 3 => rfl

end Checkup.Syntax.Indentation
