import Mathlib.Data.List.Basic
import Checkup.Proofs.Syntax.Preorder

/-!
# The leaves of a tree

* `Node.leaves_eq_filter`: the leaves are the nodes without parts, in the order of the text.
* `Node.walkLeaves` collects them with a stack of the trees still to be looked at, and
  `Node.walkLeaves_eq_flatMap` collects the same ones.
* `Node.IsInOrder.pairwise_leaves`: in a tree in order, each leaf lies before the next one.
-/

namespace Checkup.Syntax.Node

theorem leavesOf_eq_flatMap (ns : List Node) : leavesOf ns = ns.flatMap leaves := by
  induction ns with
  | nil => rfl
  | cons n ns ih => rw [leavesOf, ih, List.flatMap_cons]

theorem leaves_eq (n : Node) :
    n.leaves = if n.children.isEmpty then [n] else n.children.flatMap leaves := by
  cases n
  rw [leaves, leavesOf_eq_flatMap]

/-- The leaves are the nodes without parts. -/
theorem leaves_eq_filter (n : Node) : n.leaves = n.preorder.filter (·.children.isEmpty) := by
  induction n using inductOn with
  | step n ih =>
      rw [leaves_eq, preorder_eq, preorderAll_eq_flatMap, List.filter_cons, List.filter_flatMap,
        List.flatMap_congr ih]
      split
      case isTrue none => rw [List.isEmpty_iff.mp none, List.flatMap_nil]
      case isFalse => rfl

/-- A leaf is a node of the tree. -/
theorem mem_preorder_of_mem_leaves {leaf n : Node} (mem : leaf ∈ n.leaves) :
    leaf ∈ n.preorder := by
  rw [leaves_eq_filter] at mem
  exact (List.mem_filter.mp mem).1

/-- Collects the leaves of the trees on a stack.  The parts of a node are put on the stack, the
first of them on top. -/
def walkLeaves : List Node → List Node
  | [] => []
  | n :: stack =>
    if n.children.isEmpty then n :: walkLeaves stack else walkLeaves (n.children ++ stack)
termination_by stack => (stack.flatMap preorder).length
decreasing_by
  · rw [List.flatMap_cons, List.length_append, preorder_eq, List.length_cons]
    omega
  · rw [List.flatMap_cons, List.flatMap_append, List.length_append, List.length_append,
      preorder_eq n, List.length_cons, preorderAll_eq_flatMap]
    omega

/-- The walk with a stack collects the leaves of one tree after the other. -/
theorem walkLeaves_eq_flatMap (stack : List Node) : walkLeaves stack = stack.flatMap leaves := by
  fun_induction walkLeaves stack with
  | case1 => rfl
  | case2 n stack none ih => rw [List.flatMap_cons, leaves_eq, if_pos none, ih]; rfl
  | case3 n stack some_parts ih =>
      rw [List.flatMap_cons, leaves_eq, if_neg some_parts, ih, List.flatMap_append]

theorem walkLeaves_root (root : Node) : walkLeaves [root] = root.leaves := by
  rw [walkLeaves_eq_flatMap, List.flatMap_singleton]

/-- The leaves of a tree in order lie one behind the other. -/
theorem IsInOrder.pairwise_leaves {n : Node} (order : n.IsInOrder) :
    n.leaves.Pairwise fun a b => a.stop.byte ≤ b.start.byte := by
  induction n using inductOn with
  | step n ih =>
      rw [leaves_eq]
      split
      · exact List.pairwise_singleton _ _
      · refine List.pairwise_flatMap.mpr ⟨fun c part => ih c part (order.of_child part), ?_⟩
        apply order.pairwise_children.imp
        intro a b apart x inLeft y inRight
        exact apart x (mem_preorder_of_mem_leaves inLeft) y (mem_preorder_of_mem_leaves inRight)

end Checkup.Syntax.Node
