import Checkup.Proofs.Indentation.Openers
import Checkup.Proofs.Syntax.AllClear
import Checkup.Proofs.Syntax.Earliest
import Checkup.Proofs.Syntax.MissingBody

/-!
# Positions that are reported

* `Issue.IsInside` is a line and column of a text: those of a character, or of the end of a line.
* `Occurrence.issue?_cases`: what is reported of a node is reported where a node of the tree starts,
  unless it is the missing body of a block.
* `Block.IsExpectedAt.isInside_or_below`: a body is missing at a position of the text, or right below
  its header.
* `reported_position_exists` puts the rules and the errors of a tree together; what is not reported
  inside is a body that a block lacks, as `Occurrence.LacksBody` says.
-/

namespace Checkup.Syntax

variable {text : List Char} {root : Node} {i : Issue}

/-! ## Positions of a text -/

/-- The line is one of the text, and the column is one of that line or right behind it. -/
structure Issue.IsInside (text : List Char) (i : Issue) : Prop where
  line_pos : 1 ≤ i.line
  column_pos : 1 ≤ i.column
  on_line : ∃ line, (Text.lines text)[i.line - 1]? = some line ∧ i.column ≤ line.length + 1

/-- What is reported on a row of the text is inside, whatever the number of bytes. -/
theorem Issue.atRow_isInside {row : Nat} (below : row < (Text.lines text).length) (column : Nat)
    (m : String) : (atRow text row column m).IsInside text := by
  have at_row : (Text.lines text)[row]? = some (Text.lines text)[row] :=
    List.getElem?_eq_getElem below
  have bound := columnOf_le text row column
  rw [List.getD_eq_getElem?_getD, at_row] at bound
  exact ⟨Nat.succ_pos row, Nat.succ_pos _, _, at_row, bound⟩

theorem Issue.ofPlace_isInside {p : Place} (inside : p.IsIn text) (m : String) :
    (ofPlace text p m).IsInside text :=
  atRow_isInside inside.row_lt_length p.column m

/-- A body is missing at a position of the text, or else there is no code below the header. -/
theorem Block.IsExpectedAt.isInside_or_below {header line column : Nat}
    (expected : IsExpectedAt text header line column) (m : String) :
    Issue.IsInside text ⟨line, column, m⟩ ∨
      (∀ l ∈ (Text.lines text).drop (header + 1), IsIdle l) ∧ line = header + 2 ∧ column = 1 := by
  cases expected with
  | @code idle _ line split _ _ =>
      left
      have at_row : header + 2 + idle.length - 1 = header + 1 + idle.length := by omega
      refine ⟨by dsimp only; omega, Nat.succ_pos _, line, ?_, ?_⟩
      · dsimp only
        rw [at_row]
        exact getElem?_of_drop split
      · exact Nat.succ_le_succ (List.takeWhile_prefix _).length_le
  | nothing idle => exact .inr ⟨idle, rfl, rfl⟩

/-! ## Rules for nodes -/

namespace Occurrence

variable {o : Occurrence}

/-- What a node of a tree is inside of, and what it stands behind, are nodes of the tree. -/
theorem StandsIn.mem_preorder (stands : StandsIn root o) :
    o.node ∈ root.preorder ∧ (∀ a ∈ o.ancestors, a ∈ root.preorder) ∧
      ∀ b, o.before = some b → b ∈ root.preorder := by
  induction stands with
  | root => exact ⟨root.self_mem_preorder, List.forall_mem_nil _, nofun⟩
  | @part o left right c stands split ih =>
      obtain ⟨node, ancestors, -⟩ := ih
      have part {n : Node} : n ∈ o.node.children → n ∈ root.preorder := Node.part_mem_preorder node
      rw [split] at part
      refine ⟨part (List.mem_append_right left List.mem_cons_self), ?_, fun b last => ?_⟩
      · exact List.forall_mem_cons.mpr ⟨node, ancestors⟩
      · exact part (List.mem_append_left _ (List.mem_of_getLast? last))

/-- A comprehension is reported at a comma or at the body of a generator. -/
theorem iterableIssue?_eq_some (stands : StandsIn root o)
    (found : o.iterableIssue? text = some i) :
    ∃ n ∈ root.preorder, ∃ m, i = .ofPlace text n.start m := by
  obtain ⟨node, ancestors, -⟩ := stands.mem_preorder
  unfold iterableIssue? at found
  split at found
  · cases found
  · rename_i comma first
    dsimp only at found
    split at found
    · rename_i body around
      cases found
      split at around
      · rename_i generator call outer inside
        split at around
        · have member : generator ∈ o.ancestors := by
            rw [inside]
            exact List.mem_cons_self
          have part := List.mem_of_find?_eq_some around
          exact ⟨body, Node.part_mem_preorder (ancestors _ member) part, _, rfl⟩
        · cases around
      · cases around
    · cases found
      exact ⟨comma, Node.part_mem_preorder node (List.mem_of_find?_eq_some first), _, rfl⟩

/-- What is reported of a node is reported where a node starts, or is the missing body of a block. -/
theorem issue?_cases (stands : StandsIn root o) (found : o.issue? text = some i) :
    (∃ n ∈ root.preorder, ∃ m, i = .ofPlace text n.start m) ∨
      o.node.kind = "block" ∧ o.node.parts = [] := by
  have node := stands.mem_preorder.1
  cases reportedAt found with
  | start at_start => exact .inl ⟨o.node, node, _, at_start⟩
  | inside _ member at_inner => exact .inl ⟨_, Node.preorder_trans member root node, _, at_inner⟩
  | around looks =>
      rcases looks with block | clause
      · right
        rw [issue?_block block] at found
        split at found
        case isTrue empty => exact ⟨block, List.isEmpty_iff.mp empty⟩
        case isFalse => cases found
      · left
        simp only [issue?, clause] at found
        exact iterableIssue?_eq_some stands found

/-- An empty block below whose header there is no code, and what is reported of it: that the body is
missing from the line below the header. -/
structure LacksBody (text : List Char) (o : Occurrence) (header : Nat) (i : Issue) : Prop where
  block : o.node.kind = "block"
  empty : o.node.parts = []
  ends : o.EndsHeader header
  no_code : ∀ line ∈ (Text.lines text).drop (header + 1), Block.IsIdle line
  issue : i = ⟨header + 2, 1, "expected an indented block"⟩

/-- A header of a tree over a text ends on a row of the text. -/
theorem EndsHeader.lt_length {header : Nat} (stands : StandsIn root o)
    (places : ∀ n ∈ root.preorder, n.start.IsIn text ∧ n.stop.IsIn text)
    (ends : o.EndsHeader header) : header < (Text.lines text).length := by
  obtain ⟨node, -, before⟩ := stands.mem_preorder
  cases ends with
  | colon here _ => exact (places _ (before _ here)).2.row_lt_length
  | own _ => exact (places _ node).1.row_lt_length

end Occurrence

/-! ## The rule for indentation -/

/-- Indentation is reported on a row on which a node of the tree starts. -/
theorem Indentation.issue?_isInside (places : ∀ n ∈ root.preorder, n.start.IsIn text)
    (found : issue? text root = some i) : i.IsInside text := by
  have begins : Progress.IsBehind {} [] := ⟨rfl, rfl, rfl⟩
  unfold issue? at found
  obtain ⟨⟨row, column, fault⟩, stops, rfl⟩ := Option.map_eq_some_iff.mp found
  rw [faultFrom?_eq text root.leaves begins] at stops
  obtain ⟨⟨row, fault⟩, first, same⟩ := Option.map_eq_some_iff.mp stops
  cases same
  obtain ⟨seen, l, rest, split, -, rfl⟩ := mem_openerRows (mem_of_misfit?_eq_some first)
  have member : l ∈ lexemesOf root.leaves := by
    rw [split]
    exact List.mem_append_right seen List.mem_cons_self
  obtain ⟨leaf, kept, rfl⟩ := List.mem_map.mp member
  have inTree := Node.mem_preorder_of_mem_leaves (List.mem_filter.mp kept).1
  exact Issue.atRow_isInside (places leaf inTree).row_lt_length _ _

/-! ## Programs -/

/-- What is reported of a node is inside of the text, or is a body that the block lacks. -/
theorem Occurrence.isInside_or_lacksBody {o : Occurrence} (stands : StandsIn root o)
    (places : ∀ n ∈ root.preorder, n.start.IsIn text) (found : o.issue? text = some i) :
    i.IsInside text ∨ ∃ header, o.LacksBody text header i := by
  rcases issue?_cases stands found with ⟨n, member, m, rfl⟩ | ⟨block, empty⟩
  · exact .inl (Issue.ofPlace_isInside (places n member) m)
  · obtain ⟨line, column, expected⟩ :=
      Block.exists_isExpectedAt text (Block.headerRow o.before o.node)
    rw [issue?_block block, empty, Block.missingIssue_of_isExpectedAt expected] at found
    cases found
    rcases expected.isInside_or_below Block.message with inside | ⟨idle, rfl, rfl⟩
    · exact .inl inside
    · exact .inr ⟨_, block, empty, endsHeader_iff.mpr rfl, idle, rfl⟩

/-- Whatever is reported, its line is one of the text and its column is one of that line or right
behind it, or a block lacks its body.  That is reported at the first column below the header, at most
one line behind the last. -/
theorem reported_position_exists
    (places : ∀ n ∈ root.preorder, n.start.IsIn text ∧ n.stop.IsIn text)
    (found : findIssue text (some root) = .ok (some i)) :
    1 ≤ i.line ∧ 1 ≤ i.column ∧
      ((∃ line, (Text.lines text)[i.line - 1]? = some line ∧ i.column ≤ line.length + 1) ∨
        ∃ o header, Occurrence.StandsIn root o ∧ o.LacksBody text header i ∧
          i.line ≤ (Text.lines text).length + 1) := by
  have starts : ∀ n ∈ root.preorder, n.start.IsIn text := fun n member => (places n member).1
  have shown : issueOf? text root = some i := Except.ok.inj found
  have answer : i.IsInside text ∨
      ∃ o header, Occurrence.StandsIn root o ∧ o.LacksBody text header i := by
    unfold issueOf? at shown
    split at shown
    · cases shown
      exact .inl (Issue.ofPlace_isInside (starts _ (error_or_root_mem root)) _)
    · rcases of_firstViolation?_eq_some shown with nodes | indentation
      · obtain ⟨o, stands, here⟩ := of_firstStructural?_eq_some nodes
        rcases o.isInside_or_lacksBody stands starts here with inside | ⟨header, lacks⟩
        · exact .inl inside
        · exact .inr ⟨o, header, stands, lacks⟩
      · exact .inl (Indentation.issue?_isInside starts indentation)
  rcases answer with inside | ⟨o, header, stands, lacks⟩
  · exact ⟨inside.line_pos, inside.column_pos, .inl inside.on_line⟩
  · have within := lacks.ends.lt_length stands places
    have same := lacks.issue
    subst same
    exact ⟨Nat.succ_pos _, Nat.le_refl 1, .inr ⟨o, header, stands, lacks, Nat.succ_le_succ within⟩⟩

/-- The tree of `if é:`, which ends behind its header. -/
def endsInHeader : Node :=
  onLine "module" true 0 6 [
    onLine "if_statement" true 0 6 [
      onLine "if" false 0 2 [],
      onLine "identifier" true 3 5 [],
      onLine ":" false 5 6 [],
      onLine "block" true 6 6 []]]

/-- The body is missing from the second line of a text that has one line. -/
theorem endsInHeader_reported :
    (∀ n ∈ endsInHeader.preorder, n.start.IsIn "if é:".toList ∧ n.stop.IsIn "if é:".toList) ∧
    findIssue "if é:".toList (some endsInHeader) =
      .ok (some ⟨2, 1, "expected an indented block"⟩) ∧
    (Text.lines "if é:".toList).length = 1 ∧
    ∃ o header, Occurrence.StandsIn endsInHeader o ∧
      o.LacksBody "if é:".toList header ⟨2, 1, "expected an indented block"⟩ := by
  have places : ∀ n ∈ endsInHeader.preorder,
      n.start.IsIn "if é:".toList ∧ n.stop.IsIn "if é:".toList := by decide
  have found : findIssue "if é:".toList (some endsInHeader) =
      .ok (some ⟨2, 1, "expected an indented block"⟩) := congrArg Except.ok (by decide)
  have ⟨_, _, position⟩ := reported_position_exists places found
  refine ⟨places, found, rfl, ?_⟩
  rcases position with ⟨line, at_row, -⟩ | ⟨o, header, stands, lacks, -⟩
  · cases at_row
  · exact ⟨o, header, stands, lacks⟩

end Checkup.Syntax
