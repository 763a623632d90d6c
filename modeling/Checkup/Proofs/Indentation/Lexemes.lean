import Mathlib.Data.List.Induction
import Checkup.Proofs.Syntax.Leaves
import Checkup.Syntax.Rule.Indentation

/-!
# Lines on which statements begin

What the rule for indentation goes by are the lexemes of a program: the leaves of its tree that are
not passed over, each with its kind and the rows it begins and ends on.

* `Pairing.IsClosed` says that all brackets, or all strings, are closed behind some lexemes;
  `Pairing.depth_eq_zero_iff` counts it.
* `OpensLine` is a lexeme that begins a logical line, and `openerRows` are the rows of these.
* `openerRows_increasing`: each such row lies below the ones before it.
* `Continues` is a row that goes on with a logical line; `not_continues_of_mem_openerRows`.
-/

namespace Checkup.Syntax.Indentation

/-! ## Lexemes -/

/-- What the rule for indentation goes by in a leaf: its kind, and the rows it begins and ends
on. -/
structure Lexeme where
  kind : String
  firstRow : Nat
  lastRow : Nat
deriving DecidableEq

def Lexeme.ofLeaf (leaf : Node) : Lexeme := ⟨leaf.kind, leaf.start.row, leaf.stop.row⟩

/-- The lexemes of some leaves, without comments, blocks and leaves without text. -/
def lexemesOf (leaves : List Node) : List Lexeme :=
  (leaves.filter fun leaf => ! isIgnored leaf).map .ofLeaf

/-- The lexemes of a tree: those of its nodes without parts, in the order of the text. -/
def lexemes (root : Node) : List Lexeme :=
  lexemesOf (root.preorder.filter (·.children.isEmpty))

/-- Lexemes that come one after the other: none ends above the row it begins on, or below the row
that a later one begins on. -/
structure InRows (ls : List Lexeme) : Prop where
  first_le_last : ∀ l ∈ ls, l.firstRow ≤ l.lastRow
  in_order : ls.Pairwise fun a b => a.lastRow ≤ b.firstRow

/-- The lexemes of a tree over a text come one after the other. -/
theorem lexemes_inRows {text : List Char} {root : Node} (lies : root.IsOver text)
    (ends : ∀ m ∈ root.preorder, m.stop.IsIn text) : InRows (lexemes root) := by
  have among {leaf : Node} (kept : leaf ∈ root.leaves.filter fun leaf => ! isIgnored leaf) :
      leaf ∈ root.preorder :=
    Node.mem_preorder_of_mem_leaves (List.mem_filter.mp kept).1
  unfold lexemes lexemesOf
  rw [← Node.leaves_eq_filter]
  constructor
  · intro l mem
    rcases List.mem_map.mp mem with ⟨leaf, kept, rfl⟩
    have placed := lies leaf (among kept)
    exact Place.row_le_of_byte_le placed.start_isIn (ends leaf (among kept)) placed.start_le_stop
  · apply List.pairwise_map.mpr
    apply (lies.isInOrder.pairwise_leaves.filter _).imp_of_mem
    intro a b left right le
    exact Place.row_le_of_byte_le (ends a (among left)) (lies b (among right)).start_isIn le

/-! ## Brackets and strings -/

/-- Kinds of lexemes of which one closes what another one opens. -/
structure Pairing where
  openings : List String
  closings : List String
  apart : ∀ kind ∈ openings, kind ∉ closings

namespace Pairing

def brackets : Pairing where
  openings := ["(", "[", "\x7b"]
  closings := [")", "]", "\x7d"]
  apart := by decide

def strings : Pairing where
  openings := ["string_start"]
  closings := ["string_end"]
  apart := by decide

def opens (p : Pairing) (l : Lexeme) : Bool := p.openings.contains l.kind

def closes (p : Pairing) (l : Lexeme) : Bool := p.closings.contains l.kind

variable {p : Pairing}

theorem closes_eq_false {l : Lexeme} (opening : p.opens l = true) : p.closes l = false := by
  unfold opens closes at *
  rw [List.contains_iff_mem] at opening
  rw [← Bool.not_eq_true, List.contains_iff_mem]
  exact p.apart l.kind opening

/-- All that is opened is closed: from no lexeme on is more opened than closed. -/
def IsClosed (p : Pairing) (ls : List Lexeme) : Prop :=
  ∀ tail, tail <:+ ls → tail.countP p.opens ≤ tail.countP p.closes

/-- Nothing is closed that is not open: up to no lexeme is more closed than opened. -/
def IsBalanced (p : Pairing) (ls : List Lexeme) : Prop :=
  ∀ head, head <+: ls → head.countP p.closes ≤ head.countP p.opens

theorem IsBalanced.of_prefix {before ls : List Lexeme} (balanced : p.IsBalanced ls)
    (inside : before <+: ls) : p.IsBalanced before :=
  fun head shorter => balanced head (shorter.trans inside)

/-- If nothing is closed that is not open, all is closed when as much has been closed as opened. -/
theorem IsBalanced.isClosed_iff {ls : List Lexeme} (balanced : p.IsBalanced ls) :
    p.IsClosed ls ↔ ls.countP p.closes = ls.countP p.opens := by
  constructor
  · intro closed
    exact Nat.le_antisymm (balanced ls (List.prefix_refl ls)) (closed ls (List.suffix_refl ls))
  · intro same tail inside
    rcases inside with ⟨head, rfl⟩
    have above := balanced head (List.prefix_append head tail)
    rw [List.countP_append, List.countP_append] at same
    omega

/-- How much is open behind one more lexeme.  Where nothing is open, nothing is closed. -/
def pass (p : Pairing) (depth : Nat) (l : Lexeme) : Nat :=
  if p.opens l then depth + 1 else if p.closes l then depth - 1 else depth

/-- How much is open behind some lexemes. -/
def depth (p : Pairing) (ls : List Lexeme) : Nat := ls.foldl p.pass 0

theorem depth_concat (p : Pairing) (ls : List Lexeme) (l : Lexeme) :
    p.depth (ls ++ [l]) = p.pass (p.depth ls) l := by
  unfold depth
  rw [List.foldl_append]
  rfl

theorem pass_le_iff (p : Pairing) (depth : Nat) (l : Lexeme) (k : Nat) :
    p.pass depth l ≤ k ↔ depth + [l].countP p.opens ≤ k + [l].countP p.closes := by
  rw [List.countP_singleton, List.countP_singleton, pass]
  by_cases opening : p.opens l = true
  · rw [if_pos opening, if_pos opening, closes_eq_false opening, if_neg Bool.false_ne_true]
    rfl
  · rw [if_neg opening, if_neg opening]
    split
    · exact Nat.sub_le_iff_le_add
    · rfl

/-- The suffixes of a list with one more element are the empty one, and those of the list with that
element behind them. -/
theorem forall_suffix_concat_iff {α : Type} {holds : List α → Prop} (empty : holds []) (as : List α)
    (a : α) :
    (∀ tail, tail <:+ as ++ [a] → holds tail) ↔ ∀ tail, tail <:+ as → holds (tail ++ [a]) := by
  constructor
  · intro each tail inside
    exact each (tail ++ [a]) (List.suffix_concat_iff.mpr (.inr ⟨tail, rfl, inside⟩))
  · intro each tail inside
    rcases List.suffix_concat_iff.mp inside with rfl | ⟨rest, rfl, within⟩
    · exact empty
    · exact each rest within

/-- So much is open at most, if from no lexeme on more is opened than closed and that much. -/
theorem depth_le_iff (p : Pairing) (ls : List Lexeme) (k : Nat) :
    p.depth ls ≤ k ↔ ∀ tail, tail <:+ ls → tail.countP p.opens ≤ tail.countP p.closes + k := by
  induction ls using List.reverseRecOn generalizing k with
  | nil =>
      refine ⟨fun _ tail inside => ?_, fun _ => Nat.zero_le k⟩
      rw [List.suffix_nil.mp inside]
      exact Nat.zero_le _
  | append_singleton ls l ih =>
      rw [forall_suffix_concat_iff (Nat.zero_le _), depth_concat, pass_le_iff]
      simp only [List.countP_append]
      by_cases room : [l].countP p.opens ≤ k + [l].countP p.closes
      · have rest := ih (k + [l].countP p.closes - [l].countP p.opens)
        constructor
        · intro le tail inside
          have bound := rest.mp (by omega) tail inside
          omega
        · intro each
          have bound : p.depth ls ≤ k + [l].countP p.closes - [l].countP p.opens := by
            apply rest.mpr
            intro tail inside
            have opened := each tail inside
            omega
          omega
      · -- the lexeme opens more than there may be, even if all before it is closed
        refine ⟨fun le => by omega, fun each => ?_⟩
        have opened := each [] List.nil_suffix
        rw [List.countP_nil, List.countP_nil] at opened
        omega

theorem depth_eq_zero_iff (p : Pairing) (ls : List Lexeme) : p.depth ls = 0 ↔ p.IsClosed ls := by
  rw [← Nat.le_zero, depth_le_iff]
  rfl

instance (p : Pairing) (ls : List Lexeme) : Decidable (p.IsClosed ls) :=
  decidable_of_iff _ (p.depth_eq_zero_iff ls)

end Pairing

/-! ## Rows that open a logical line -/

/-- A lexeme that begins a logical line behind others: it is the first one or on a new row, and all
brackets and strings before it are closed. -/
structure OpensLine (before : List Lexeme) (l : Lexeme) : Prop where
  new_row : ∀ last ∈ before.getLast?, last.lastRow < l.firstRow
  brackets : Pairing.brackets.IsClosed before
  strings : Pairing.strings.IsClosed before

instance (before : List Lexeme) (l : Lexeme) : Decidable (OpensLine before l) :=
  decidable_of_iff
    ((∀ last ∈ before.getLast?, last.lastRow < l.firstRow) ∧
      Pairing.brackets.IsClosed before ∧ Pairing.strings.IsClosed before)
    ⟨fun ⟨row, brackets, strings⟩ => ⟨row, brackets, strings⟩,
      fun ⟨row, brackets, strings⟩ => ⟨row, brackets, strings⟩⟩

/-- The rows on which logical lines begin, among lexemes that come behind others. -/
def openerRows (before : List Lexeme) : List Lexeme → List Nat
  | [] => []
  | l :: ls =>
    if OpensLine before l then l.firstRow :: openerRows (before ++ [l]) ls
    else openerRows (before ++ [l]) ls

theorem mem_openerRows {row : Nat} {before ls : List Lexeme} (mem : row ∈ openerRows before ls) :
    ∃ seen l rest, ls = seen ++ l :: rest ∧ OpensLine (before ++ seen) l ∧ l.firstRow = row := by
  induction ls generalizing before with
  | nil => cases mem
  | cons l ls ih =>
      have later (inside : row ∈ openerRows (before ++ [l]) ls) :
          ∃ seen l' rest, l :: ls = seen ++ l' :: rest ∧ OpensLine (before ++ seen) l' ∧
            l'.firstRow = row := by
        rcases ih inside with ⟨seen, l', rest, rfl, opens, same⟩
        rw [List.append_assoc] at opens
        exact ⟨l :: seen, l', rest, rfl, opens, same⟩
      rw [openerRows] at mem
      split at mem
      case isTrue opens =>
        rcases List.mem_cons.mp mem with rfl | inside
        · exact ⟨[], l, ls, rfl, by rw [List.append_nil]; exact opens, rfl⟩
        · exact later inside
      case isFalse => exact later mem

/-- All lexemes before one that begins a logical line end above it. -/
theorem OpensLine.lastRow_lt {before rest : List Lexeme} {l : Lexeme} (opens : OpensLine before l)
    (rows : InRows (before ++ l :: rest)) {m : Lexeme} (mem : m ∈ before) :
    m.lastRow < l.firstRow := by
  rcases List.eq_nil_or_concat before with rfl | ⟨init, last, split⟩
  · cases mem
  · rw [List.concat_eq_append] at split
    have above : last.lastRow < l.firstRow := by
      apply opens.new_row
      rw [split, List.getLast?_concat]
      rfl
    have order := (List.pairwise_append.mp rows.in_order).1
    have last_forward : last.firstRow ≤ last.lastRow := by
      apply rows.first_le_last
      rw [split]
      exact List.mem_append_left _ (List.mem_append_right _ List.mem_cons_self)
    rw [split] at mem order
    rcases List.mem_append.mp mem with earlier | same
    · have le := (List.pairwise_append.mp order).2.2 m earlier last List.mem_cons_self
      omega
    · rw [List.mem_singleton.mp same]
      exact above

/-- Logical lines begin on rows further and further down. -/
theorem openerRows_increasing {before ls : List Lexeme} (rows : InRows (before ++ ls)) :
    (openerRows before ls).Pairwise (· < ·) := by
  induction ls generalizing before with
  | nil => exact .nil
  | cons l ls ih =>
      have rest : (openerRows (before ++ [l]) ls).Pairwise (· < ·) := by
        apply ih
        rw [List.append_assoc]
        exact rows
      rw [openerRows]
      split
      case isFalse => exact rest
      case isTrue =>
        refine List.pairwise_cons.mpr ⟨?_, rest⟩
        intro row mem
        rcases mem_openerRows mem with ⟨seen, l', tail, rfl, opens, rfl⟩
        have ordered : InRows ((before ++ [l] ++ seen) ++ l' :: tail) := by
          rw [List.append_assoc, List.append_assoc]
          exact rows
        have inside : l ∈ before ++ [l] ++ seen :=
          List.mem_append_left _ (List.mem_append_right _ List.mem_cons_self)
        have forward := ordered.first_le_last l (List.mem_append_left _ inside)
        exact Nat.lt_of_le_of_lt forward (opens.lastRow_lt ordered inside)

/-! ## Rows that go on with a logical line -/

/-- The lexemes that begin above a row. -/
def above (row : Nat) (ls : List Lexeme) : List Lexeme := ls.filter (·.firstRow < row)

/-- A row that goes on with a logical line: it begins inside of brackets or of a string, or behind a
backslash at the end of the row before. -/
inductive Continues (ls : List Lexeme) (row : Nat) : Prop
  | inBrackets : ¬ Pairing.brackets.IsClosed (above row ls) → Continues ls row
  | inString : ¬ Pairing.strings.IsClosed (above row ls) → Continues ls row
  | behindBackslash {l : Lexeme} : (above row ls).getLast? = some l →
    l.kind = "line_continuation" → l.lastRow = row → Continues ls row

/-- What begins above the row of a lexeme that begins a logical line is what comes before it. -/
theorem OpensLine.above_eq {before rest : List Lexeme} {l : Lexeme} (opens : OpensLine before l)
    (rows : InRows (before ++ l :: rest)) : above l.firstRow (before ++ l :: rest) = before := by
  have inFront : before.filter (·.firstRow < l.firstRow) = before := by
    apply List.filter_eq_self.mpr
    intro m mem
    have forward := rows.first_le_last m (List.mem_append_left _ mem)
    have ended := opens.lastRow_lt rows mem
    exact decide_eq_true (Nat.lt_of_le_of_lt forward ended)
  have behind : (l :: rest).filter (·.firstRow < l.firstRow) = [] := by
    apply List.filter_eq_nil_iff.mpr
    intro m mem less
    have forward := rows.first_le_last l (List.mem_append_right _ List.mem_cons_self)
    have order := (List.pairwise_append.mp rows.in_order).2.1
    have earlier := of_decide_eq_true less
    rcases List.mem_cons.mp mem with rfl | later
    · exact Nat.lt_irrefl _ earlier
    · have le := List.rel_of_pairwise_cons order later
      omega
  unfold above
  rw [List.filter_append, inFront, behind, List.append_nil]

/-- No logical line begins on a row that goes on with one. -/
theorem not_continues_of_mem_openerRows {ls : List Lexeme} (rows : InRows ls) {row : Nat}
    (mem : row ∈ openerRows [] ls) : ¬ Continues ls row := by
  rcases mem_openerRows mem with ⟨before, l, rest, rfl, opens, rfl⟩
  rw [List.nil_append] at opens
  intro continues
  cases continues with
  | inBrackets unclosed =>
      rw [opens.above_eq rows] at unclosed
      exact unclosed opens.brackets
  | inString unclosed =>
      rw [opens.above_eq rows] at unclosed
      exact unclosed opens.strings
  | behindBackslash last _ same =>
      rw [opens.above_eq rows] at last
      have less := opens.new_row _ last
      omega

end Checkup.Syntax.Indentation
