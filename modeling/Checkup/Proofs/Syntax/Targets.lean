import Checkup.Proofs.Syntax.Preorder
import Checkup.Syntax.Rule.DeleteTarget

/-!
# Targets without their groups

What a statement deletes is a list of targets, where tuples, lists and parentheses only group
others.

* `targets` lists the targets without the groups; `targets_sublist_preorder`: they stand in the
  order of the text.
* `invalidIn?_eq_findSome?`: looking for an undeletable target through all groups is looking for one
  in this list.
-/

namespace Checkup.Syntax.DeleteTarget

/-- The fault of a target that is no group. -/
def undeletable? (n : Node) : Option (Node × Undeletable) :=
  if isDeletable n.kind then none else some (n, .ofKind n.kind)

theorem undeletable?_eq_some_iff {n t : Node} {what : Undeletable} :
    undeletable? n = some (t, what) ↔
      ¬ isDeletable n.kind = true ∧ n = t ∧ .ofKind n.kind = what := by
  unfold undeletable?
  split
  case isTrue deletable => exact iff_of_false nofun fun h => h.1 deletable
  case isFalse other => rw [Option.some.injEq, Prod.mk.injEq, and_iff_right other]

mutual

/-- The targets in a target: itself, or those of its parts if it is a group. -/
def targetsOf : Node → List Node
  | n@⟨kind, _, _, _, _, _, _, _, children⟩ => if isGroup kind then targets children else [n]

/-- The targets among the parts that count of a list of nodes. -/
def targets : List Node → List Node
  | [] => []
  | c :: cs => if c.named && c.kind ≠ "comment" then targetsOf c ++ targets cs else targets cs

end

theorem targetsOf_group {n : Node} (group : isGroup n.kind = true) :
    targetsOf n = targets n.children := by
  cases n
  rw [targetsOf]
  exact if_pos group

theorem targetsOf_single {n : Node} (single : isGroup n.kind = false) : targetsOf n = [n] := by
  cases n
  rw [targetsOf]
  exact if_neg (by simpa using single)

theorem targets_eq_flatMap (ns : List Node) :
    targets ns = (ns.filter fun c => c.named && c.kind ≠ "comment").flatMap targetsOf := by
  induction ns with
  | nil => rfl
  | cons n ns ih =>
      rw [targets, List.filter_cons]
      split
      · rw [List.flatMap_cons, ih]
      · exact ih

theorem targets_children (n : Node) : targets n.children = n.parts.flatMap targetsOf :=
  targets_eq_flatMap n.children

theorem targets_sublist_preorderAll {ns : List Node}
    (each : ∀ n ∈ ns, (targetsOf n).Sublist n.preorder) :
    (targets ns).Sublist (Node.preorderAll ns) := by
  induction ns with
  | nil => exact List.Sublist.refl []
  | cons n ns ih =>
      have ⟨head, tail⟩ := List.forall_mem_cons.mp each
      rw [targets, Node.preorderAll]
      split
      · exact head.append (ih tail)
      · exact (ih tail).trans (List.sublist_append_right _ _)

/-- The targets in a target are nodes of it, in the order of the text. -/
theorem targetsOf_sublist_preorder (n : Node) : (targetsOf n).Sublist n.preorder := by
  induction n using Node.inductOn with
  | step n ih =>
      rw [Node.preorder_eq]
      cases group : isGroup n.kind with
      | true =>
          rw [targetsOf_group group]
          exact (targets_sublist_preorderAll ih).cons n
      | false =>
          rw [targetsOf_single group]
          exact (List.nil_sublist _).cons_cons n

/-- So are the targets in the parts of a node. -/
theorem targets_sublist_preorder (n : Node) : (targets n.children).Sublist n.preorder := by
  rw [Node.preorder_eq]
  exact (targets_sublist_preorderAll fun c _ => targetsOf_sublist_preorder c).cons n

theorem isGroup_of_isDeletable {kind : String} (deletable : isDeletable kind = true) :
    isGroup kind = false := by
  simp only [isDeletable, List.contains_eq_mem, List.mem_cons, List.not_mem_nil, or_false,
    decide_eq_true_eq] at deletable
  rcases deletable with rfl | rfl | rfl | rfl <;> decide

mutual

theorem invalid?_eq_findSome? : ∀ n : Node, invalid? n = (targetsOf n).findSome? undeletable?
  | n@⟨kind, _, _, _, _, _, _, _, children⟩ => by
    rw [invalid?]
    by_cases deletable : isDeletable kind
    · rw [if_pos deletable, targetsOf_single (isGroup_of_isDeletable deletable)]
      simp [undeletable?, deletable]
    · rw [if_neg deletable]
      by_cases group : isGroup kind
      · rw [if_pos group, targetsOf_group group]
        exact invalidIn?_eq_findSome? children
      · rw [if_neg group, targetsOf_single (by simpa using group)]
        simp [undeletable?, deletable]

/-- The first undeletable target of all groups is the first one of the list. -/
theorem invalidIn?_eq_findSome? : ∀ cs : List Node,
    invalidIn? cs = (targets cs).findSome? undeletable?
  | [] => rfl
  | c :: cs => by
    rw [invalidIn?, targets]
    split
    · rw [List.findSome?_append, invalid?_eq_findSome? c, invalidIn?_eq_findSome? cs]
    · exact invalidIn?_eq_findSome? cs

end

end Checkup.Syntax.DeleteTarget
