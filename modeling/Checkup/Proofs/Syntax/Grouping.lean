import Mathlib.Data.List.Basic
import Checkup.Proofs.Syntax.Targets

/-!
# Deletion through groups

A `del` statement is judged by what is left of its parts when every group among them is replaced by
the parts of the group, until there are no groups.

* `Ungroups` is this replacing, in any order.  `ungroups_iff`: it comes to an end whatever the order,
  and always at the same list.
* `IsRefusal` has the words with which each kind of target is refused.
* `deletion_judged_ungrouped`: the first target of that list that cannot be deleted is reported, where
  it starts, and nothing is reported if there is none.
-/

namespace Checkup.Syntax

namespace DeleteTarget

/-- A node that only groups others. -/
def GroupsOthers (n : Node) : Prop :=
  n.kind ∈ ["tuple", "list", "expression_list", "parenthesized_expression"]

/-- A node that can be deleted. -/
def CanBeDeleted (n : Node) : Prop :=
  n.kind ∈ ["identifier", "keyword_identifier", "attribute", "subscript"]

instance (n : Node) : Decidable (GroupsOthers n) := inferInstanceAs (Decidable (_ ∈ _))

instance (n : Node) : Decidable (CanBeDeleted n) := inferInstanceAs (Decidable (_ ∈ _))

/-- Groups are replaced by those parts of them that count, until no group is left. -/
inductive Ungroups : List Node → List Node → Prop
  | done {ns : List Node} : (∀ n ∈ ns, ¬ GroupsOthers n) → Ungroups ns ns
  | replace {before after flat : List Node} {g : Node} : GroupsOthers g →
    Ungroups (before ++ g.parts ++ after) flat → Ungroups (before ++ g :: after) flat

/-- The words with which a target of a kind is refused. -/
inductive IsRefusal : String → String → Prop
  | call : IsRefusal "call" "cannot delete function call"
  | starred : IsRefusal "list_splat" "cannot delete starred"
  | literal {kind : String} :
    kind ∈ ["integer", "float", "string", "concatenated_string", "true", "false", "none"] →
    IsRefusal kind "cannot delete literal"
  | expression {kind : String} :
    kind ∉ ["call", "list_splat", "integer", "float", "string", "concatenated_string", "true",
      "false", "none"] →
    IsRefusal kind "cannot delete expression"

variable {n t : Node} {ns flat : List Node} {kind words : String}

/-! ## Kinds of targets -/

theorem groupsOthers_iff : GroupsOthers n ↔ isGroup n.kind = true := by
  unfold GroupsOthers isGroup
  rw [List.contains_iff_mem]

theorem not_groupsOthers_iff : ¬ GroupsOthers n ↔ isGroup n.kind = false := by
  rw [groupsOthers_iff, Bool.not_eq_true]

theorem canBeDeleted_iff : CanBeDeleted n ↔ isDeletable n.kind = true := by
  unfold CanBeDeleted isDeletable
  rw [List.contains_iff_mem]

theorem undeletable?_eq_none_iff : undeletable? n = none ↔ CanBeDeleted n := by
  unfold undeletable?
  rw [canBeDeleted_iff]
  split
  case isTrue deletable => exact iff_of_true rfl deletable
  case isFalse other => exact iff_of_false nofun other

theorem isRefusal_iff : IsRefusal kind words ↔ (Undeletable.ofKind kind).message = words := by
  constructor
  · intro refusal
    cases refusal with
    | call => rfl
    | starred => rfl
    | literal literals =>
        simp only [List.mem_cons, List.not_mem_nil, or_false] at literals
        rcases literals with rfl | rfl | rfl | rfl | rfl | rfl | rfl <;> rfl
    | expression other =>
        simp only [List.mem_cons, List.not_mem_nil, or_false, not_or] at other
        simp [Undeletable.ofKind, other]
        rfl
  · intro said
    subst said
    unfold Undeletable.ofKind
    split
    case isTrue call => exact call ▸ .call
    case isFalse noCall =>
      split
      case isTrue starred => exact starred ▸ .starred
      case isFalse notStarred =>
        split
        case isTrue literals => exact .literal (List.contains_iff_mem.mp literals)
        case isFalse notLiteral =>
          refine .expression fun mem => ?_
          rcases List.mem_cons.mp mem with same | mem
          · exact noCall same
          rcases List.mem_cons.mp mem with same | mem
          · exact notStarred same
          · exact notLiteral (List.contains_iff_mem.mpr mem)

/-! ## Replacing groups -/

/-- What is left of a node is no group. -/
theorem not_groupsOthers_of_mem_targetsOf (n : Node) (mem : t ∈ targetsOf n) :
    ¬ GroupsOthers t := by
  induction n using Node.inductOn with
  | step n ih =>
      cases group : isGroup n.kind with
      | true =>
          rw [targetsOf_group group, targets_children] at mem
          obtain ⟨c, part, found⟩ := List.mem_flatMap.mp mem
          exact ih c (List.mem_filter.mp part).1 found
      | false =>
          rw [targetsOf_single group] at mem
          cases List.mem_singleton.mp mem
          exact not_groupsOthers_iff.mpr group

theorem targetsOf_of_not_groupsOthers (single : ¬ GroupsOthers n) : targetsOf n = [n] :=
  targetsOf_single (not_groupsOthers_iff.mp single)

theorem targetsOf_of_groupsOthers (group : GroupsOthers n) :
    targetsOf n = n.parts.flatMap targetsOf := by
  rw [targetsOf_group (groupsOthers_iff.mp group), targets_children]

/-- Replacing a group leaves the same targets. -/
theorem Ungroups.eq_flatMap (ungroups : Ungroups ns flat) : flat = ns.flatMap targetsOf := by
  induction ungroups with
  | done single =>
      rw [List.flatMap_congr fun n mem => targetsOf_of_not_groupsOthers (single n mem)]
      exact (List.flatMap_singleton' _).symm
  | replace group _ ih =>
      rw [ih, List.flatMap_append, List.flatMap_append, List.flatMap_append, List.flatMap_cons,
        targetsOf_of_groupsOthers group, List.append_assoc]

/-- Nodes that can each be replaced by their targets can all be, one behind the other. -/
theorem Ungroups.of_flatMap {before after : List Node}
    (each : ∀ n ∈ ns, ∀ before after, Ungroups (before ++ targetsOf n ++ after) flat →
      Ungroups (before ++ n :: after) flat)
    (ungroups : Ungroups (before ++ ns.flatMap targetsOf ++ after) flat) :
    Ungroups (before ++ ns ++ after) flat := by
  induction ns generalizing before with
  | nil => exact ungroups
  | cons n ns ih =>
      have ⟨head, tail⟩ := List.forall_mem_cons.mp each
      rw [List.flatMap_cons, ← List.append_assoc before] at ungroups
      have rest := ih tail ungroups
      rw [List.append_assoc before, List.cons_append]
      apply head
      rw [← List.append_assoc]
      exact rest

/-- A node can be replaced by its targets. -/
theorem Ungroups.of_targetsOf (n : Node) : ∀ before after,
    Ungroups (before ++ targetsOf n ++ after) flat → Ungroups (before ++ n :: after) flat := by
  induction n using Node.inductOn with
  | step n ih =>
      intro before after ungroups
      by_cases group : GroupsOthers n
      · rw [targetsOf_of_groupsOthers group] at ungroups
        exact .replace group <| .of_flatMap (fun c part => ih c (List.mem_filter.mp part).1) ungroups
      · rw [targetsOf_of_not_groupsOthers group, List.append_assoc] at ungroups
        exact ungroups

/-- Whichever group is replaced first, in the end the targets are left. -/
theorem ungroups_iff : Ungroups ns flat ↔ flat = ns.flatMap targetsOf := by
  refine ⟨Ungroups.eq_flatMap, fun same => ?_⟩
  subst same
  have ended : Ungroups (ns.flatMap targetsOf) (ns.flatMap targetsOf) := by
    apply Ungroups.done
    intro t mem
    obtain ⟨n, _, found⟩ := List.mem_flatMap.mp mem
    exact not_groupsOthers_of_mem_targetsOf n found
  have whole : Ungroups ([] ++ ns ++ []) (ns.flatMap targetsOf) :=
    .of_flatMap (fun n _ => .of_targetsOf n) (by rwa [List.nil_append, List.append_nil])
  rwa [List.nil_append, List.append_nil] at whole

end DeleteTarget

/-! ## The rule -/

open DeleteTarget

theorem Occurrence.issue?_delete {o : Occurrence} (statement : o.node.kind = "delete_statement")
    (text : List Char) :
    o.issue? text = (fault? o.node).map fun (target, what) =>
      Issue.ofPlace text target.start what.message := by
  simp only [issue?, statement]

/-- The groups of a `del` statement can be replaced by their parts until there are none, and in any
order this comes to the same list of targets, in the order of the text.  Nothing is reported exactly
if all of them can be deleted.  Otherwise the first one that cannot be is reported, where it starts,
in the words for its kind. -/
theorem deletion_judged_ungrouped {o : Occurrence} (statement : o.node.kind = "delete_statement")
    (text : List Char) :
    ∃ flat, (∀ ns, Ungroups o.node.parts ns ↔ ns = flat) ∧ flat.Sublist o.node.preorder ∧
      (o.issue? text = none ↔ ∀ t ∈ flat, CanBeDeleted t) ∧
      ∀ i, o.issue? text = some i ↔
        ∃ before t after words, flat = before ++ t :: after ∧ (∀ b ∈ before, CanBeDeleted b) ∧
          ¬ CanBeDeleted t ∧ ¬ GroupsOthers t ∧ IsRefusal t.kind words ∧
          i = Issue.ofPlace text t.start words := by
  have judged : o.issue? text = ((o.node.parts.flatMap targetsOf).findSome? undeletable?).map
      fun (target, what) => Issue.ofPlace text target.start what.message := by
    rw [Occurrence.issue?_delete statement, fault?, invalidIn?_eq_findSome?, targets_children]
  refine ⟨o.node.parts.flatMap targetsOf, fun _ => ungroups_iff, ?_, ?_, ?_⟩
  · rw [← targets_children]
    exact targets_sublist_preorder o.node
  · rw [judged, Option.map_eq_none_iff, List.findSome?_eq_none_iff]
    simp only [undeletable?_eq_none_iff]
  · intro i
    rw [judged, Option.map_eq_some_iff]
    simp only [List.findSome?_eq_some_iff, undeletable?_eq_none_iff]
    constructor
    · intro found
      rcases found with ⟨⟨t, what⟩, ⟨before, n, after, split, undeletable, deletable⟩, rfl⟩
      obtain ⟨other, rfl, rfl⟩ := undeletable?_eq_some_iff.mp undeletable
      have member : n ∈ o.node.parts.flatMap targetsOf := by
        rw [split]
        exact List.mem_append_right before List.mem_cons_self
      obtain ⟨c, _, found⟩ := List.mem_flatMap.mp member
      exact ⟨before, n, after, _, split, deletable, mt canBeDeleted_iff.mp other,
        not_groupsOthers_of_mem_targetsOf c found, isRefusal_iff.mpr rfl, rfl⟩
    · intro first
      rcases first with ⟨before, t, after, words, split, deletable, other, -, refusal, rfl⟩
      refine ⟨(t, .ofKind t.kind), ⟨before, t, after, split, ?_, deletable⟩, ?_⟩
      · exact undeletable?_eq_some_iff.mpr ⟨mt canBeDeleted_iff.mpr other, rfl, rfl⟩
      · rw [isRefusal_iff.mp refusal]

/-- The targets in `del (a, [b.c, f()]), 0`. -/
def nestedTargets : List Node :=
  [onLine "identifier" true 5 6 [], onLine "attribute" true 9 12 [], onLine "call" true 14 17 [],
    onLine "integer" true 21 22 []]

/-- The statement `del (a, [b.c, f()]), 0`. -/
def nestedDeletion : Node :=
  onLine "delete_statement" true 0 22 [
    onLine "del" false 0 3 [],
    onLine "expression_list" true 4 22 [
      onLine "tuple" true 4 19 [
        onLine "(" false 4 5 [],
        onLine "identifier" true 5 6 [],
        onLine "," false 6 7 [],
        onLine "list" true 8 18 [
          onLine "[" false 8 9 [],
          onLine "attribute" true 9 12 [],
          onLine "," false 12 13 [],
          onLine "call" true 14 17 [],
          onLine "]" false 17 18 []],
        onLine ")" false 18 19 []],
      onLine "," false 19 20 [],
      onLine "integer" true 21 22 []]]

/-- The call is reported, inside of three groups, and not the number behind them. -/
theorem nestedDeletion_refused :
    nestedDeletion.kind = "delete_statement" ∧ Ungroups nestedDeletion.parts nestedTargets ∧
    Occurrence.issue? "del (a, [b.c, f()]), 0".toList { node := nestedDeletion } =
      some ⟨1, 15, "cannot delete function call"⟩ := by
  have statement : ({ node := nestedDeletion } : Occurrence).node.kind = "delete_statement" := rfl
  have ungroups : Ungroups nestedDeletion.parts nestedTargets := ungroups_iff.mpr rfl
  have ⟨flat, same, _, _, reported⟩ :=
    deletion_judged_ungrouped statement "del (a, [b.c, f()]), 0".toList
  cases (same nestedTargets).mp ungroups
  refine ⟨rfl, ungroups, (reported _).mpr ?_⟩
  exact ⟨nestedTargets.take 2, onLine "call" true 14 17 [], nestedTargets.drop 3,
    "cannot delete function call", rfl, by decide, by decide, by decide, .call, by decide⟩

end Checkup.Syntax
