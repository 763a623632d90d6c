import Checkup.Proofs.Syntax.Verdict
import Checkup.Proofs.Syntax.Walk

/-!
# When nothing is reported

* `IsClear` says that a tree has no errors and that no rule finds anything, at any of its nodes.
* `issueBy?` is the check of a program by other rules, so that it can be said what does not depend
  on the rules; `issueByWalks?` is the check as it goes through the tree with a stack.
* `nothing_reported_iff_clear`: a program is given the all-clear exactly if its tree is clear.  What
  is reported otherwise is an error of the tree, found without the rules, or the find of a rule.
-/

namespace Checkup.Syntax

variable {text : List Char} {root : Node} {i : Issue}

/-! ## Errors of a tree -/

/-- An error that is found is a node of the tree. -/
theorem errorIn?_mem {m : Node} (n : Node) (found : errorIn? n = some m) : m ∈ n.preorder := by
  induction n using Node.inductOn with
  | step n ih =>
      rw [errorIn?_eq] at found
      split at found
      · cases found
        exact m.self_mem_preorder
      · split at found
        · rcases List.exists_of_findSome?_eq_some found with ⟨c, part, inside⟩
          exact Node.mem_preorder.mpr (.inr ⟨c, part, ih c part inside⟩)
        · cases found

/-- What is described of a tree with errors is one of its nodes. -/
theorem error_or_root_mem (root : Node) : (errorIn? root).getD root ∈ root.preorder := by
  cases found : errorIn? root with
  | none => exact root.self_mem_preorder
  | some n => exact errorIn?_mem root found

/-! ## The check by any rules -/

/-- The first issue of a program by some rules for nodes and for indentation. -/
def issueBy? (nodeRule : List Char → Occurrence → Option Issue)
    (indentRule : List Char → Node → Option Issue) (text : List Char) (root : Node) :
    Option Issue :=
  if root.hasError then some (errorIssue text ((errorIn? root).getD root))
  else
    match (Occurrence.all root).findSome? (nodeRule text), indentRule text root with
    | some a, some b => some (if b.isBefore a then b else a)
    | a, b => a.or b

theorem issueOf?_eq_issueBy? (text : List Char) (root : Node) :
    issueOf? text root = issueBy? (fun text o => o.issue? text) Indentation.issue? text root := rfl

/-- Of a tree with errors, any rules give the same answer. -/
theorem issueBy?_of_hasError (errors : root.hasError = true)
    (nodeRule : List Char → Occurrence → Option Issue)
    (indentRule : List Char → Node → Option Issue) :
    issueBy? nodeRule indentRule text root =
      some (errorIssue text ((errorIn? root).getD root)) := by
  rw [issueBy?, if_pos errors]

/-- The first issue of a program as two walks with a stack find it: one for errors, which only
enters nodes that have some, and one for the rules, which enters all nodes. -/
def issueByWalks? (text : List Char) (root : Node) : Option Issue :=
  if root.hasError then
    some (errorIssue text ((Occurrence.search (·.node.hasError) Occurrence.error?
      [{ node := root }]).getD root))
  else
    match Occurrence.search (fun _ => true) (·.issue? text) [{ node := root }],
        Indentation.issue? text root with
    | some a, some b => some (if b.isBefore a then b else a)
    | a, b => a.or b

theorem issueOf?_eq_issueByWalks? (text : List Char) (root : Node) :
    issueOf? text root = issueByWalks? text root := by
  rw [issueByWalks?, ← errorIn?_eq_search, ← firstStructural?_eq_search]
  rfl

/-! ## What the rules report -/

theorem firstStructural?_eq_none_iff :
    firstStructural? text root = none ↔
      ∀ o, Occurrence.StandsIn root o → o.issue? text = none := by
  rw [firstStructural?, List.findSome?_eq_none_iff]
  simp only [Occurrence.mem_all_iff]

theorem firstViolation?_eq_none_iff :
    firstViolation? text root = none ↔
      firstStructural? text root = none ∧ Indentation.issue? text root = none := by
  rw [firstViolation?]
  cases firstStructural? text root <;> cases Indentation.issue? text root <;> simp

/-- What is reported is the find of a rule. -/
theorem of_firstViolation?_eq_some (found : firstViolation? text root = some i) :
    firstStructural? text root = some i ∨ Indentation.issue? text root = some i := by
  rw [firstViolation?] at found
  cases nodes : firstStructural? text root with
  | none =>
      rw [nodes] at found
      exact .inr found
  | some a =>
      cases indents : Indentation.issue? text root with
      | none =>
          rw [nodes, indents] at found
          exact .inl found
      | some b =>
          rw [nodes, indents] at found
          dsimp only at found
          split at found
          · exact .inr found
          · exact .inl found

theorem of_firstStructural?_eq_some (found : firstStructural? text root = some i) :
    ∃ o, Occurrence.StandsIn root o ∧ o.issue? text = some i := by
  rcases List.exists_of_findSome?_eq_some found with ⟨o, mem, shown⟩
  exact ⟨o, Occurrence.mem_all_iff.mp mem, shown⟩

/-! ## The all-clear -/

/-- A tree without errors in which no rule finds anything. -/
structure IsClear (text : List Char) (root : Node) : Prop where
  no_error : root.hasError = false
  nodes : ∀ o, Occurrence.StandsIn root o → o.issue? text = none
  indentation : Indentation.issue? text root = none

theorem issueOf?_eq_none_iff : issueOf? text root = none ↔ IsClear text root := by
  rw [issueOf?]
  cases errors : root.hasError with
  | true =>
      refine ⟨fun silent => (nomatch silent), fun clear => ?_⟩
      cases errors.symm.trans clear.no_error
  | false =>
      rw [if_neg Bool.false_ne_true, firstViolation?_eq_none_iff, firstStructural?_eq_none_iff]
      exact ⟨fun ⟨nodes, indentation⟩ => ⟨errors, nodes, indentation⟩,
        fun clear => ⟨clear.nodes, clear.indentation⟩⟩

/-- The answer for a program is what the two walks find, which come by each node once in the order of
the text, and is the all-clear exactly if its tree is clear.  The answer for a tree with errors
describes one of its nodes, whatever the rules are; any other issue is that of a node or that of the
indentation. -/
theorem nothing_reported_iff_clear (text : List Char) (root : Node) :
    findIssue text (some root) = .ok (issueByWalks? text root) ∧
    (Occurrence.all root).map Occurrence.node = root.preorder ∧
    (findIssue text (some root) = .ok none ↔ IsClear text root) ∧
    (verdict (findIssue text (some root)) = noErrors ↔ IsClear text root) ∧
    (root.hasError = true →
      (∃ n ∈ root.preorder, findIssue text (some root) = .ok (some (errorIssue text n))) ∧
      ∀ nodeRule indentRule,
        findIssue text (some root) = .ok (issueBy? nodeRule indentRule text root)) ∧
    (root.hasError = false → ∀ i, findIssue text (some root) = .ok (some i) →
      (∃ o, Occurrence.StandsIn root o ∧ o.issue? text = some i) ∨
        Indentation.issue? text root = some i) := by
  have clear : findIssue text (some root) = .ok none ↔ IsClear text root := by
    rw [findIssue, Except.ok.injEq, issueOf?_eq_none_iff]
  have walks : findIssue text (some root) = .ok (issueByWalks? text root) := by
    rw [findIssue, issueOf?_eq_issueByWalks?]
  refine ⟨walks, Occurrence.map_node_all root, clear, (verdict_eq_noErrors_iff _).trans clear, ?_, ?_⟩
  · intro errors
    have answer : findIssue text (some root) =
        .ok (some (errorIssue text ((errorIn? root).getD root))) := by
      rw [findIssue, issueOf?_eq_issueBy?, issueBy?_of_hasError errors]
    refine ⟨⟨_, error_or_root_mem root, answer⟩, fun nodeRule indentRule => ?_⟩
    rw [answer, issueBy?_of_hasError errors]
  · intro no_error i found
    rw [findIssue, Except.ok.injEq, issueOf?, no_error, if_neg Bool.false_ne_true] at found
    rcases of_firstViolation?_eq_some found with node | indentation
    · exact .inl (of_firstStructural?_eq_some node)
    · exact .inr indentation

end Checkup.Syntax
