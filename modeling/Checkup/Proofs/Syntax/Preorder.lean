import Checkup.Proofs.Syntax.Place
import Checkup.Syntax.Rule

/-!
# Trees over a text

Nodes are checked in the order of `Occurrence.all`, each before its parts.

* `Node.IsInOrder` is a tree whose parts lie inside their node, one behind the other.
* `Node.IsOver` is such a tree over a text.
* `Occurrence.pairwise_all` says what is known of the places of two nodes from this order: the
  second starts no further up, and unless it is inside the first it starts behind its end.
-/

namespace Checkup.Syntax

namespace Node

/-! ## The nodes of a tree -/

/-- What holds of a node if it holds of its parts holds of all nodes. -/
theorem inductOn {P : Node → Prop} (step : ∀ n : Node, (∀ c ∈ n.children, P c) → P n) (n : Node) :
    P n :=
  step n fun c _ => inductOn step c
termination_by n
decreasing_by
  have smaller : sizeOf c < sizeOf n.children := List.sizeOf_lt_of_mem ‹c ∈ n.children›
  cases n
  simp only [mk.sizeOf_spec] at smaller ⊢
  omega

theorem preorder_eq (n : Node) : n.preorder = n :: preorderAll n.children := by
  cases n
  rw [preorder]

theorem preorderAll_eq_flatMap (ns : List Node) : preorderAll ns = ns.flatMap preorder := by
  induction ns with
  | nil => rfl
  | cons n ns ih => rw [preorderAll, ih, List.flatMap_cons]

theorem mem_preorderAll {m : Node} {ns : List Node} :
    m ∈ preorderAll ns ↔ ∃ n ∈ ns, m ∈ n.preorder := by
  rw [preorderAll_eq_flatMap, List.mem_flatMap]

theorem mem_preorder {m n : Node} : m ∈ n.preorder ↔ m = n ∨ ∃ c ∈ n.children, m ∈ c.preorder := by
  rw [preorder_eq, List.mem_cons, mem_preorderAll]

theorem self_mem_preorder (n : Node) : n ∈ n.preorder := mem_preorder.mpr (.inl rfl)

theorem child_mem_preorder {c n : Node} (part : c ∈ n.children) : c ∈ n.preorder :=
  mem_preorder.mpr (.inr ⟨c, part, self_mem_preorder c⟩)

/-- The nodes of a node in a tree are nodes of the tree. -/
theorem preorder_trans {k m : Node} (inner : k ∈ m.preorder) (n : Node) (outer : m ∈ n.preorder) :
    k ∈ n.preorder := by
  induction n using inductOn with
  | step n ih =>
      rcases mem_preorder.mp outer with rfl | ⟨c, part, below⟩
      · exact inner
      · exact mem_preorder.mpr (.inr ⟨c, part, ih c part below⟩)

/-- The parts of the nodes of a tree are nodes of it. -/
theorem part_mem_preorder {c n root : Node} (inside : n ∈ root.preorder) (part : c ∈ n.children) :
    c ∈ root.preorder :=
  preorder_trans (child_mem_preorder part) root inside

/-! ## Nodes in order -/

/-- A node with its parts inside of it, one behind the other. -/
structure IsLaidOut (n : Node) : Prop where
  start_le_stop : n.start.byte ≤ n.stop.byte
  start_le : ∀ c ∈ n.children, n.start.byte ≤ c.start.byte
  le_stop : ∀ c ∈ n.children, c.stop.byte ≤ n.stop.byte
  in_order : n.children.Pairwise fun a b => a.stop.byte ≤ b.start.byte

instance (n : Node) : Decidable n.IsLaidOut :=
  decidable_of_iff
    (n.start.byte ≤ n.stop.byte ∧ (∀ c ∈ n.children, n.start.byte ≤ c.start.byte) ∧
      (∀ c ∈ n.children, c.stop.byte ≤ n.stop.byte) ∧
      n.children.Pairwise fun a b => a.stop.byte ≤ b.start.byte)
    ⟨fun ⟨length, first, last, order⟩ => ⟨length, first, last, order⟩,
      fun ⟨length, first, last, order⟩ => ⟨length, first, last, order⟩⟩

/-- A tree in order: all of its nodes are laid out. -/
def IsInOrder (n : Node) : Prop := ∀ m ∈ n.preorder, m.IsLaidOut

instance (n : Node) : Decidable n.IsInOrder :=
  inferInstanceAs (Decidable (∀ m ∈ n.preorder, m.IsLaidOut))

namespace IsInOrder

variable {n : Node}

theorem laidOut (order : n.IsInOrder) : n.IsLaidOut := order n (self_mem_preorder n)

theorem of_mem {m : Node} (order : n.IsInOrder) (mem : m ∈ n.preorder) : m.IsInOrder :=
  fun _ inner => order _ (preorder_trans inner n mem)

theorem of_child {c : Node} (order : n.IsInOrder) (part : c ∈ n.children) : c.IsInOrder :=
  order.of_mem (child_mem_preorder part)

/-- The nodes of a tree lie inside of it. -/
theorem bounds (order : n.IsInOrder) {m : Node} (mem : m ∈ n.preorder) :
    n.start.byte ≤ m.start.byte ∧ m.stop.byte ≤ n.stop.byte := by
  induction n using inductOn with
  | step n ih =>
      rcases mem_preorder.mp mem with rfl | ⟨c, part, below⟩
      · exact ⟨Nat.le_refl _, Nat.le_refl _⟩
      · have inside := ih c part (order.of_child part) below
        have first := order.laidOut.start_le c part
        have last := order.laidOut.le_stop c part
        omega

/-- Of two parts of a node, all of the first lies before all of the second. -/
theorem pairwise_children (order : n.IsInOrder) :
    n.children.Pairwise fun a b =>
      ∀ x ∈ a.preorder, ∀ y ∈ b.preorder, x.stop.byte ≤ y.start.byte := by
  apply order.laidOut.in_order.imp_of_mem
  intro a b left right gap x inLeft y inRight
  have leftBounds := (order.of_child left).bounds inLeft
  have rightBounds := (order.of_child right).bounds inRight
  omega

/-- The nodes of a tree, each before its parts, are in the order of their starts. -/
theorem pairwise_preorder (order : n.IsInOrder) :
    n.preorder.Pairwise fun a b => a.start.byte ≤ b.start.byte := by
  induction n using inductOn with
  | step n ih =>
      rw [preorder_eq, preorderAll_eq_flatMap]
      refine List.pairwise_cons.mpr ⟨?_, List.pairwise_flatMap.mpr ⟨?_, ?_⟩⟩
      · intro m below
        have mem : m ∈ n.preorder := by
          rw [preorder_eq, preorderAll_eq_flatMap]
          exact List.mem_cons_of_mem n below
        exact (order.bounds mem).1
      · exact fun c part => ih c part (order.of_child part)
      · apply order.pairwise_children.imp_of_mem
        intro a b left _ apart x inLeft y inRight
        have placed := order.of_child left x inLeft
        exact Nat.le_trans placed.start_le_stop (apart x inLeft y inRight)

end IsInOrder

/-! ## Places of nodes -/

/-- A node that starts at a place of a text, with its parts inside and one behind the other. -/
structure IsPlaced (text : List Char) (n : Node) : Prop where
  start_isIn : n.start.IsIn text
  start_le_stop : n.start.byte ≤ n.stop.byte
  start_le : ∀ c ∈ n.children, n.start.byte ≤ c.start.byte
  le_stop : ∀ c ∈ n.children, c.stop.byte ≤ n.stop.byte
  in_order : n.children.Pairwise fun a b => a.stop.byte ≤ b.start.byte

instance (text : List Char) (n : Node) : Decidable (n.IsPlaced text) :=
  decidable_of_iff
    (n.start.IsIn text ∧ n.start.byte ≤ n.stop.byte ∧
      (∀ c ∈ n.children, n.start.byte ≤ c.start.byte) ∧
      (∀ c ∈ n.children, c.stop.byte ≤ n.stop.byte) ∧
      n.children.Pairwise fun a b => a.stop.byte ≤ b.start.byte)
    ⟨fun ⟨place, length, first, last, order⟩ => ⟨place, length, first, last, order⟩,
      fun ⟨place, length, first, last, order⟩ => ⟨place, length, first, last, order⟩⟩

/-- A tree over a text: all of its nodes are placed. -/
def IsOver (text : List Char) (n : Node) : Prop := ∀ m ∈ n.preorder, m.IsPlaced text

instance (text : List Char) (n : Node) : Decidable (n.IsOver text) :=
  inferInstanceAs (Decidable (∀ m ∈ n.preorder, m.IsPlaced text))

namespace IsOver

variable {text : List Char} {n : Node}

theorem placed (lies : n.IsOver text) : n.IsPlaced text := lies n (self_mem_preorder n)

theorem of_mem {m : Node} (lies : n.IsOver text) (mem : m ∈ n.preorder) : m.IsOver text :=
  fun _ inner => lies _ (preorder_trans inner n mem)

theorem isInOrder (lies : n.IsOver text) : n.IsInOrder := by
  intro m mem
  have placed := lies m mem
  exact ⟨placed.start_le_stop, placed.start_le, placed.le_stop, placed.in_order⟩

/-- The nodes of a tree lie inside of it. -/
theorem bounds (lies : n.IsOver text) {m : Node} (mem : m ∈ n.preorder) :
    n.start.byte ≤ m.start.byte ∧ m.stop.byte ≤ n.stop.byte :=
  lies.isInOrder.bounds mem

end IsOver

end Node

namespace Occurrence

/-! ## Nodes where they stand -/

theorem preorder_eq (ancestors : List Node) (before : Option Node) (n : Node) :
    preorder ancestors before n =
      { node := n, ancestors, before } :: preorderAll (n :: ancestors) none n.children := by
  cases n
  rw [preorder]

theorem mem_preorderAll {o : Occurrence} {ancestors : List Node} {before : Option Node}
    {ns : List Node} (mem : o ∈ preorderAll ancestors before ns) :
    ∃ n ∈ ns, ∃ left, o ∈ preorder ancestors left n := by
  induction ns generalizing before with
  | nil => cases mem
  | cons n ns ih =>
      rcases List.mem_append.mp mem with here | later
      · exact ⟨n, List.mem_cons_self, before, here⟩
      · rcases ih later with ⟨m, tail, left, found⟩
        exact ⟨m, List.mem_cons_of_mem n tail, left, found⟩

/-- One occurrence stands inside of another one. -/
def IsInside (inner outer : Occurrence) : Prop := outer.node :: outer.ancestors <:+ inner.ancestors

/-- What is found below a node is a node of its tree, inside of all that the node is inside of. -/
theorem of_mem_preorder {o : Occurrence} {ancestors : List Node} {before : Option Node} (n : Node)
    (mem : o ∈ preorder ancestors before n) :
    o.node ∈ n.preorder ∧ ancestors <:+ o.ancestors := by
  induction n using Node.inductOn generalizing ancestors before with
  | step n ih =>
      rw [preorder_eq] at mem
      rcases List.mem_cons.mp mem with rfl | below
      · exact ⟨n.self_mem_preorder, List.suffix_refl ancestors⟩
      · rcases mem_preorderAll below with ⟨c, part, left, found⟩
        rcases ih c part found with ⟨node, inside⟩
        refine ⟨Node.mem_preorder.mpr (.inr ⟨c, part, node⟩), ?_⟩
        exact (List.suffix_cons n ancestors).trans inside

theorem node_mem_of_mem_all {o : Occurrence} {root : Node} (mem : o ∈ all root) :
    o.node ∈ root.preorder :=
  (of_mem_preorder root mem).1

/-! ## The order of nodes -/

/-- The places of two nodes of which the second comes later: it starts no further up, and behind
the end of the first one unless it stands inside of it. -/
def Follows (o later : Occurrence) : Prop :=
  o.node.start.byte ≤ later.node.start.byte ∧
    (later.IsInside o ∨ o.node.stop.byte ≤ later.node.start.byte)

variable {text : List Char}

/-- A list of trees keeps the order if each tree does, and each lies behind the one before it. -/
theorem pairwise_preorderAll {ancestors : List Node} {before : Option Node} {ns : List Node}
    (lies : ∀ n ∈ ns, n.IsOver text)
    (each : ∀ n ∈ ns, ∀ left, (preorder ancestors left n).Pairwise Follows)
    (in_order : ns.Pairwise fun a b => a.stop.byte ≤ b.start.byte) :
    (preorderAll ancestors before ns).Pairwise Follows := by
  induction ns generalizing before with
  | nil => exact .nil
  | cons n ns ih =>
      rcases List.pairwise_cons.mp in_order with ⟨ahead, rest⟩
      rcases List.forall_mem_cons.mp lies with ⟨overHead, overTail⟩
      rcases List.forall_mem_cons.mp each with ⟨eachHead, eachTail⟩
      refine List.pairwise_append.mpr ⟨eachHead before, ih overTail eachTail rest, ?_⟩
      intro o here later there
      rcases mem_preorderAll there with ⟨m, tail, left, found⟩
      have inHead := (of_mem_preorder n here).1
      have inTail := (of_mem_preorder m found).1
      have oBounds := overHead.bounds inHead
      have oPlaced := (overHead _ inHead).start_le_stop
      have laterBounds := (overTail m tail).bounds inTail
      have gap := ahead m tail
      exact ⟨by omega, .inr (by omega)⟩

theorem pairwise_preorder {n : Node} (lies : n.IsOver text) (ancestors : List Node)
    (before : Option Node) : (preorder ancestors before n).Pairwise Follows := by
  induction n using Node.inductOn generalizing ancestors before with
  | step n ih =>
      have parts : ∀ c ∈ n.children, c.IsOver text := fun c part =>
        lies.of_mem (Node.child_mem_preorder part)
      rw [preorder_eq]
      refine List.pairwise_cons.mpr ⟨?_, ?_⟩
      · intro later below
        rcases mem_preorderAll below with ⟨c, part, left, found⟩
        rcases of_mem_preorder c found with ⟨node, inside⟩
        have mem : later.node ∈ n.preorder := Node.mem_preorder.mpr (.inr ⟨c, part, node⟩)
        exact ⟨(lies.bounds mem).1, .inl inside⟩
      · exact pairwise_preorderAll parts (fun c part => ih c part (parts c part) (n :: ancestors))
          lies.placed.in_order

/-- All nodes of a tree over a text are checked in the order of their starts. -/
theorem pairwise_all {root : Node} (lies : root.IsOver text) : (all root).Pairwise Follows :=
  pairwise_preorder lies [] none

end Occurrence

/-- A node of a text of one line. -/
def onLine (kind : String) (named : Bool) (start stop : Nat) (children : List Node) : Node :=
  { kind, named, start := ⟨start, 0, start⟩, stop := ⟨stop, 0, stop⟩, children }

end Checkup.Syntax
