import Checkup.Proofs.Syntax.Walk

/-!
# The first error of a tree

The walk for errors only enters nodes that are marked as having some.

* `Node.MarksErrors` is what the marks have to say for this; they may be set without need.
* `errorIn?_eq_find?`: the walk then finds what a search of all nodes finds, in the order of the
  text.
* `first_error_in_order` adds that no other error starts further up, if the tree is in order.
-/

namespace Checkup.Syntax

namespace Node

/-- Whether the node itself could not be read, or is not there. -/
def isFaulty (n : Node) : Bool := n.isError || n.isMissing

/-- A node of the tree is marked as having errors if it is one, or if one is inside of it. -/
def MarksErrors (root : Node) : Prop :=
  ∀ n ∈ root.preorder, (∃ m ∈ n.preorder, m.isFaulty = true) → n.hasError = true

instance (root : Node) : Decidable root.MarksErrors :=
  inferInstanceAs (Decidable (∀ n ∈ root.preorder, _))

theorem MarksErrors.of_child {c n : Node} (marks : n.MarksErrors) (part : c ∈ n.children) :
    c.MarksErrors :=
  fun m inside => marks m (preorder_trans inside n (child_mem_preorder part))

/-- A node that is not marked has no errors. -/
theorem MarksErrors.find?_of_not_hasError {n : Node} (marks : n.MarksErrors)
    (unmarked : ¬ n.hasError = true) : n.preorder.find? isFaulty = none := by
  apply List.find?_eq_none.mpr
  intro m inside faulty
  exact unmarked (marks n n.self_mem_preorder ⟨m, inside, faulty⟩)

/-- A search of a tree looks at the root and then at its parts. -/
theorem find?_preorder (p : Node → Bool) (n : Node) :
    n.preorder.find? p = if p n then some n else (preorderAll n.children).find? p := by
  rw [preorder_eq, List.find?_cons]
  cases p n <;> rfl

/-- In a tree in order, no find of a search starts further up than the first one. -/
theorem IsInOrder.find?_first {n m : Node} {p : Node → Bool} (order : n.IsInOrder)
    (found : n.preorder.find? p = some m) {k : Node} (inside : k ∈ n.preorder)
    (holds : p k = true) : m.start.byte ≤ k.start.byte := by
  have ⟨_, seen, unseen, split, missed⟩ := List.find?_eq_some_iff_append.mp found
  have ascending := order.pairwise_preorder
  rw [split] at inside ascending
  rcases List.mem_append.mp inside with earlier | behind
  · have not_found := missed k earlier
    rw [holds] at not_found
    cases not_found
  · rcases List.mem_cons.mp behind with rfl | later
    · exact Nat.le_refl _
    · exact List.rel_of_pairwise_cons (List.pairwise_append.mp ascending).2.1 later

end Node

/-- What is described of a tree with errors: the find of the walk that only enters nodes marked as
having errors, or else the whole tree. -/
def describedError (root : Node) : Node :=
  (Occurrence.search (·.node.hasError) Occurrence.error? [{ node := root }]).getD root

theorem issueOf?_of_hasError {root : Node} (errors : root.hasError = true) (text : List Char) :
    issueOf? text root = some (errorIssue text (describedError root)) := by
  unfold issueOf? describedError
  rw [if_pos errors, errorIn?_eq_search]

/-- A search of trees for errors goes through one after the other. -/
theorem findSome?_errorIn?_eq_find? {ns : List Node}
    (each : ∀ n ∈ ns, errorIn? n = n.preorder.find? Node.isFaulty) :
    ns.findSome? errorIn? = (Node.preorderAll ns).find? Node.isFaulty := by
  induction ns with
  | nil => rfl
  | cons n ns ih =>
      have ⟨head, tail⟩ := List.forall_mem_cons.mp each
      rw [List.findSome?_cons, Node.preorderAll, List.find?_append, head, ih tail]
      cases n.preorder.find? Node.isFaulty <;> rfl

/-- Not to enter a node that is not marked loses no error. -/
theorem errorIn?_eq_find? (n : Node) (marks : n.MarksErrors) :
    errorIn? n = n.preorder.find? Node.isFaulty := by
  induction n using Node.inductOn with
  | step n ih =>
      by_cases marked : n.hasError = true
      · have parts : n.children.findSome? errorIn? =
            (Node.preorderAll n.children).find? Node.isFaulty :=
          findSome?_errorIn?_eq_find? fun c part => ih c part (marks.of_child part)
        rw [errorIn?_eq, Node.find?_preorder, if_pos marked, parts]
        rfl
      · have clean := marks.find?_of_not_hasError marked
        have sound : ¬ (n.isError || n.isMissing) = true :=
          List.find?_eq_none.mp clean n n.self_mem_preorder
        rw [errorIn?_eq, if_neg sound, if_neg marked, clean]

/-- The walk that enters every node finds the first error in the order of the text. -/
theorem search_all_error?_eq_find? (root : Node) :
    Occurrence.search (fun _ => true) Occurrence.error? [{ node := root }] =
      root.preorder.find? Node.isFaulty := by
  have each : Occurrence.error? = Option.guard Node.isFaulty ∘ Occurrence.node := by
    funext o
    rfl
  rw [search_all_eq_findSome?, ← Occurrence.map_node_all, List.find?_eq_findSome?_guard,
    List.findSome?_map, each]

/-- Of a tree in which all errors are marked, the first node in the order of the text that is an
error or missing is described, as by the walk that enters every node, and the root if there is none.
If the tree is in order, no other such node starts further up. -/
theorem first_error_in_order {root : Node} (marks : root.MarksErrors)
    (errors : root.hasError = true) :
    describedError root = (root.preorder.find? Node.isFaulty).getD root ∧
    Occurrence.search (·.node.hasError) Occurrence.error? [{ node := root }] =
      Occurrence.search (fun _ => true) Occurrence.error? [{ node := root }] ∧
    (∀ text, issueOf? text root = some (errorIssue text (describedError root))) ∧
    (root.IsInOrder → ∀ m ∈ root.preorder, m.isFaulty = true →
      (describedError root).start.byte ≤ m.start.byte) := by
  have found : Occurrence.search (·.node.hasError) Occurrence.error? [{ node := root }] =
      root.preorder.find? Node.isFaulty := by
    rw [← errorIn?_eq_search, errorIn?_eq_find? root marks]
  have described : describedError root = (root.preorder.find? Node.isFaulty).getD root := by
    unfold describedError
    rw [found]
  refine ⟨described, ?_, issueOf?_of_hasError errors, ?_⟩
  · rw [found, search_all_error?_eq_find?]
  · intro order m inside faulty
    rw [described]
    cases first : root.preorder.find? Node.isFaulty with
    | none => exact (order.bounds inside).1
    | some n => exact order.find?_first first inside faulty

/-- A node of a text of one line that may be marked as having errors. -/
def markable (hasError : Bool) (kind : String) (start stop : Nat) (children : List Node) : Node :=
  { kind, named := true, start := ⟨start, 0, start⟩, stop := ⟨stop, 0, stop⟩, hasError, children }

/-- The tree of `x = (1`, which lacks a parenthesis.  The number is marked without need. -/
def unclosed : Node :=
  markable true "module" 0 6 [
    markable true "assignment" 0 6 [
      markable false "identifier" 0 1 [],
      markable false "=" 2 3 [],
      markable true "parenthesized_expression" 4 6 [
        markable false "(" 4 5 [],
        markable true "integer" 5 6 [],
        { markable true ")" 6 6 [] with isMissing := true }]]]

/-- The parenthesis that is missing is described, and no other error starts further up. -/
theorem unclosed_described :
    unclosed.MarksErrors ∧ unclosed.hasError = true ∧ unclosed.IsInOrder ∧
    (describedError unclosed).kind = ")" ∧
    ∀ m ∈ unclosed.preorder, m.isFaulty = true →
      (describedError unclosed).start.byte ≤ m.start.byte := by
  have marks : unclosed.MarksErrors := by decide
  have order : unclosed.IsInOrder := by decide
  have ⟨described, _, _, first⟩ := first_error_in_order marks rfl
  refine ⟨marks, rfl, order, ?_, first order⟩
  rw [described]
  rfl

end Checkup.Syntax
