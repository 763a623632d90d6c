import Checkup.Proofs.Syntax.Preorder
import Checkup.Syntax.Check

/-!
# Going through a tree

The checks go through a tree by recursion.  Here the same nodes are come by in two other ways: part
by part from the root, and with a stack of the nodes that are still to be looked at.

* `Occurrence.StandsIn` says where a node of a tree can stand; `mem_all_iff` finds just these nodes
  in `Occurrence.all`, and `map_node_all` each of them once.
* `Occurrence.search` is the walk with a stack, and stops at the first find.  `search_eq_findSome?`:
  it finds what recursion finds, whichever nodes it enters.
* `firstStructural?_eq_search` and `errorIn?_eq_search` are the two walks of a check.
-/

namespace Checkup.Syntax

namespace Occurrence

/-! ## Parts where they stand -/

/-- Some siblings where they stand, the first of them behind another one or none. -/
def siblings (ancestors : List Node) (before : Option Node) : List Node → List Occurrence
  | [] => []
  | n :: ns => { node := n, ancestors, before } :: siblings ancestors (some n) ns

/-- The parts of a node where they stand. -/
def parts (o : Occurrence) : List Occurrence :=
  siblings (o.node :: o.ancestors) none o.node.children

/-- A node and all nodes inside of it, where they stand. -/
def below (o : Occurrence) : List Occurrence := preorder o.ancestors o.before o.node

theorem preorderAll_eq_flatMap (ancestors : List Node) (before : Option Node) (ns : List Node) :
    preorderAll ancestors before ns = (siblings ancestors before ns).flatMap below := by
  induction ns generalizing before with
  | nil => rfl
  | cons n ns ih => rw [preorderAll, siblings, List.flatMap_cons, ih]; rfl

theorem below_eq (o : Occurrence) : o.below = o :: o.parts.flatMap below := by
  rw [below, preorder_eq, preorderAll_eq_flatMap]
  rfl

theorem self_mem_below (o : Occurrence) : o ∈ o.below := by
  rw [below_eq]
  exact List.mem_cons_self

theorem map_node_siblings (ancestors : List Node) (before : Option Node) (ns : List Node) :
    (siblings ancestors before ns).map node = ns := by
  induction ns generalizing before with
  | nil => rfl
  | cons n ns ih => rw [siblings, List.map_cons, ih]

/-- What stands before a node among siblings is the last of those to its left, if there are any. -/
theorem getLast?_cons_or (n : Node) (left : List Node) (before : Option Node) :
    (n :: left).getLast?.or before = left.getLast?.or (some n) := by
  rw [List.getLast?_cons]
  cases left.getLast? <;> rfl

theorem mem_siblings {p : Occurrence} {ancestors : List Node} {before : Option Node}
    {ns : List Node} (mem : p ∈ siblings ancestors before ns) :
    ∃ left c right, ns = left ++ c :: right ∧
      p = { node := c, ancestors, before := left.getLast?.or before } := by
  induction ns generalizing before with
  | nil => cases mem
  | cons n ns ih =>
      rcases List.mem_cons.mp mem with rfl | later
      · exact ⟨[], n, ns, rfl, rfl⟩
      · rcases ih later with ⟨left, c, right, rfl, rfl⟩
        exact ⟨n :: left, c, right, rfl, by rw [getLast?_cons_or]⟩

theorem siblings_mem (ancestors : List Node) (before : Option Node) (left : List Node) (c : Node)
    (right : List Node) :
    { node := c, ancestors, before := left.getLast?.or before } ∈
      siblings ancestors before (left ++ c :: right) := by
  induction left generalizing before with
  | nil => exact List.mem_cons_self
  | cons n left ih =>
      rw [getLast?_cons_or]
      exact List.mem_cons_of_mem _ (ih (some n))

/-! ## Where the nodes of a tree stand -/

/-- Where a node of a tree can stand: as the root, or as a part of a node of the tree, inside of all
that this is inside of, and right behind the part before it. -/
inductive StandsIn (root : Node) : Occurrence → Prop
  | root : StandsIn root { node := root }
  | part {o : Occurrence} {left right : List Node} {c : Node} : StandsIn root o →
    o.node.children = left ++ c :: right →
    StandsIn root { node := c, ancestors := o.node :: o.ancestors, before := left.getLast? }

theorem mem_parts_iff {o p : Occurrence} :
    p ∈ o.parts ↔ ∃ left c right, o.node.children = left ++ c :: right ∧
      p = { node := c, ancestors := o.node :: o.ancestors, before := left.getLast? } := by
  constructor
  · intro mem
    rcases mem_siblings mem with ⟨left, c, right, split, same⟩
    exact ⟨left, c, right, split, by rw [same, Option.or_none]⟩
  · rintro ⟨left, c, right, split, rfl⟩
    have mem := siblings_mem (o.node :: o.ancestors) none left c right
    rw [parts, split]
    rwa [Option.or_none] at mem

/-- What holds of a node where it stands if it holds of its parts holds of all nodes. -/
theorem inductOn {P : Occurrence → Prop} (step : ∀ o, (∀ p ∈ o.parts, P p) → P o)
    (o : Occurrence) : P o := by
  rcases o with ⟨n, ancestors, before⟩
  induction n using Node.inductOn generalizing ancestors before with
  | step n ih =>
      refine step _ fun p mem => ?_
      rcases mem_parts_iff.mp mem with ⟨left, c, right, split, rfl⟩
      have part : c ∈ n.children := by
        rw [show n.children = left ++ c :: right from split]
        exact List.mem_append_right left List.mem_cons_self
      exact ih c part _ _

/-- The parts of a node inside of another one are inside of that one as well. -/
theorem below_parts {o p : Occurrence} (part : p ∈ o.parts) (r : Occurrence)
    (mem : o ∈ r.below) : p ∈ r.below := by
  induction r using inductOn with
  | step r ih =>
      rw [below_eq] at mem ⊢
      refine List.mem_cons_of_mem r (List.mem_flatMap.mpr ?_)
      rcases List.mem_cons.mp mem with rfl | inside
      · exact ⟨p, part, self_mem_below p⟩
      · rcases List.mem_flatMap.mp inside with ⟨q, partOfRoot, found⟩
        exact ⟨q, partOfRoot, ih q partOfRoot found⟩

theorem standsIn_of_mem_below {root : Node} {p : Occurrence} (r : Occurrence)
    (stands : StandsIn root r) (mem : p ∈ r.below) : StandsIn root p := by
  induction r using inductOn with
  | step r ih =>
      rw [below_eq] at mem
      rcases List.mem_cons.mp mem with rfl | inside
      · exact stands
      · rcases List.mem_flatMap.mp inside with ⟨q, part, found⟩
        refine ih q part ?_ found
        rcases mem_parts_iff.mp part with ⟨left, c, right, split, rfl⟩
        exact .part stands split

/-- The nodes that are gone through are those of the tree. -/
theorem mem_all_iff {root : Node} {o : Occurrence} : o ∈ all root ↔ StandsIn root o := by
  constructor
  · exact standsIn_of_mem_below { node := root } .root
  · intro stands
    induction stands with
    | root => exact self_mem_below { node := root }
    | part _ split found =>
        exact below_parts (mem_parts_iff.mpr ⟨_, _, _, split, rfl⟩) { node := root } found

theorem map_node_preorderAll {ns : List Node} {ancestors : List Node} {before : Option Node}
    (each : ∀ n ∈ ns, ∀ left, (preorder ancestors left n).map node = n.preorder) :
    (preorderAll ancestors before ns).map node = Node.preorderAll ns := by
  induction ns generalizing before with
  | nil => rfl
  | cons n ns ih =>
      rcases List.forall_mem_cons.mp each with ⟨head, tail⟩
      rw [preorderAll, Node.preorderAll, List.map_append, head before, ih tail]

/-- Each node of a tree is gone through once, in the order of the text. -/
theorem map_node_all (root : Node) : (all root).map node = root.preorder := by
  have each (n : Node) : ∀ ancestors before,
      (preorder ancestors before n).map node = n.preorder := by
    induction n using Node.inductOn with
    | step n ih =>
        intro ancestors before
        have parts : (preorderAll (n :: ancestors) none n.children).map node =
            Node.preorderAll n.children :=
          map_node_preorderAll fun c part left => ih c part (n :: ancestors) left
        rw [preorder_eq, Node.preorder_eq, List.map_cons, parts]
  exact each root [] none

/-! ## A walk with a stack -/

/-- The parts of a node that a walk goes on to: all of them, if it enters the node. -/
def entered (enters : Occurrence → Bool) (o : Occurrence) : List Occurrence :=
  if enters o then o.parts else []

/-- Looks through the trees on a stack, each node before its parts, and stops at the first find.
The parts of a node are only looked at if the walk enters it. -/
def search {α : Type} (enters : Occurrence → Bool) (find? : Occurrence → Option α) :
    List Occurrence → Option α
  | [] => none
  | o :: stack =>
    match find? o with
    | some a => some a
    | none => search enters find? (entered enters o ++ stack)
termination_by stack => (stack.flatMap below).length
decreasing_by
  have fewer : ((entered enters o).flatMap below).length < o.below.length := by
    rw [below_eq, List.length_cons, entered]
    split
    · exact Nat.lt_succ_self _
    · exact Nat.succ_pos _
  rw [List.flatMap_append, List.flatMap_cons, List.length_append, List.length_append]
  omega

variable {α : Type} {enters : Occurrence → Bool} {find? : Occurrence → Option α}

/-- A search by recursion, which looks at a node and then, if it enters it, at its parts, finds what
the walk finds. -/
theorem search_eq_findSome? {recursive? : Occurrence → Option α}
    (equation : ∀ o, recursive? o = (find? o).or ((entered enters o).findSome? recursive?))
    (stack : List Occurrence) : search enters find? stack = stack.findSome? recursive? := by
  fun_induction search enters find? stack with
  | case1 => rfl
  | case2 o stack a found => simp [equation o, found]
  | case3 o stack missed ih =>
      rw [ih, List.findSome?_cons, equation o, missed, Option.none_or, List.findSome?_append]
      cases (entered enters o).findSome? recursive? <;> rfl

/-- The node itself, if it is an error or missing. -/
def error? (o : Occurrence) : Option Node :=
  if o.node.isError || o.node.isMissing then some o.node else none

end Occurrence

/-! ## The two walks of a check -/

theorem findSome?_flatMap_below {α : Type} (find? : Occurrence → Option α)
    (os : List Occurrence) :
    (os.flatMap Occurrence.below).findSome? find? =
      os.findSome? fun o => o.below.findSome? find? := by
  induction os with
  | nil => rfl
  | cons o os ih =>
      rw [List.flatMap_cons, List.findSome?_append, ih, List.findSome?_cons]
      cases o.below.findSome? find? <;> rfl

/-- The walk that enters every node stops at the first find in the order of the text. -/
theorem search_all_eq_findSome? {α : Type} (find? : Occurrence → Option α) (root : Node) :
    Occurrence.search (fun _ => true) find? [{ node := root }] =
      (Occurrence.all root).findSome? find? := by
  have equation (o : Occurrence) : o.below.findSome? find? =
      (find? o).or ((Occurrence.entered (fun _ => true) o).findSome? fun p =>
        p.below.findSome? find?) := by
    rw [Occurrence.below_eq, List.findSome?_cons, findSome?_flatMap_below, Occurrence.entered,
      if_pos rfl]
    cases find? o <;> rfl
  rw [Occurrence.search_eq_findSome? equation, List.findSome?_singleton]
  rfl

/-- The walk that looks at every node stops at the first issue of a node. -/
theorem firstStructural?_eq_search (text : List Char) (root : Node) :
    firstStructural? text root =
      Occurrence.search (fun _ => true) (·.issue? text) [{ node := root }] :=
  (search_all_eq_findSome? (·.issue? text) root).symm

theorem errorInAny?_eq_findSome? (ns : List Node) : errorInAny? ns = ns.findSome? errorIn? := by
  induction ns with
  | nil => rfl
  | cons n ns ih =>
      rw [errorInAny?, ih, List.findSome?_cons]
      cases errorIn? n <;> rfl

theorem errorIn?_eq (n : Node) :
    errorIn? n = if n.isError || n.isMissing then some n
      else if n.hasError then n.children.findSome? errorIn? else none := by
  cases n
  rw [errorIn?, errorInAny?_eq_findSome?]

/-- The walk that only enters nodes with errors stops at the first error. -/
theorem errorIn?_eq_search (root : Node) :
    errorIn? root =
      Occurrence.search (·.node.hasError) Occurrence.error? [{ node := root }] := by
  have equation (o : Occurrence) : errorIn? o.node =
      o.error?.or ((Occurrence.entered (·.node.hasError) o).findSome? fun p =>
        errorIn? p.node) := by
    have parts : (o.parts.findSome? fun p => errorIn? p.node) =
        o.node.children.findSome? errorIn? := by
      rw [← Occurrence.map_node_siblings (o.node :: o.ancestors) none o.node.children,
        List.findSome?_map]
      rfl
    rw [errorIn?_eq, Occurrence.error?, Occurrence.entered]
    split
    · rfl
    · split
      · rw [parts, Option.none_or]
      · rfl
  rw [Occurrence.search_eq_findSome? equation, List.findSome?_singleton]

end Checkup.Syntax
