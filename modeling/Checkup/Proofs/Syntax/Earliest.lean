import Checkup.Proofs.Syntax.Preorder
import Checkup.Proofs.Syntax.Targets

/-!
# The earliest violation

The rules are tried in the order of the nodes, and what the first violated one reports is compared
with the indentation only.  A rule need not report at the start of its node, so an issue further up
may be left unseen behind it.

* `ReportedAt` says where each rule reports.
* `not_isBefore_of_follows`: unless the first issue lies behind the start of the later node, or the
  second one before it, issues come in the order of their nodes.
* `firstViolation_earliest_iff` reduces the question whether the reported issue is the earliest one
  to such pairs, and `nested_integer_reported_late` is a call where it is not.
-/

namespace Checkup.Syntax

namespace DeleteTarget

/-- The target at fault is a node of the statement. -/
theorem fault?_mem_preorder {n target : Node} {what : Undeletable}
    (found : fault? n = some (target, what)) : target ∈ n.preorder := by
  rw [fault?, invalidIn?_eq_findSome?] at found
  rcases List.exists_of_findSome?_eq_some found with ⟨t, mem, undeletable⟩
  have ⟨_, same, _⟩ := undeletable?_eq_some_iff.mp undeletable
  exact same ▸ (targets_sublist_preorder n).subset mem

end DeleteTarget

namespace Arguments

theorem misplaced?_mem {keyword mapping : Bool} {l : List Node} {a : Node} {fault : ArgumentFault}
    (found : misplaced? keyword mapping l = some (a, fault)) : a ∈ l := by
  induction l generalizing keyword mapping with
  | nil => cases found
  | cons b l ih =>
      rw [misplaced?] at found
      -- each argument is either the one at fault or passed over
      split at found
      · exact List.mem_cons_of_mem b (ih found)
      · exact List.mem_cons_of_mem b (ih found)
      · split at found
        · cases found
          exact List.mem_cons_self
        · exact List.mem_cons_of_mem b (ih found)
      · split at found
        · cases found
          exact List.mem_cons_self
        · split at found
          · cases found
            exact List.mem_cons_self
          · exact List.mem_cons_of_mem b (ih found)

/-- The argument at fault is a part of the call. -/
theorem fault?_mem_preorder {n a : Node} {fault : ArgumentFault}
    (found : fault? n = some (a, fault)) : a ∈ n.preorder :=
  Node.child_mem_preorder (List.mem_filter.mp (misplaced?_mem found)).1

end Arguments

namespace Occurrence

/-! ## Where rules report -/

/-- The rules for calls and `del` statements report at an argument or a target. -/
def LooksInside (o : Occurrence) : Prop :=
  o.node.kind = "argument_list" ∨ o.node.kind = "delete_statement"

/-- The rule for bodies reports at the next line of code, and that for comprehensions at a comma or
at the body of the generator around it. -/
def LooksAround (o : Occurrence) : Prop :=
  o.node.kind = "block" ∨ o.node.kind = "for_in_clause"

/-- Where the issue with a node may be. -/
inductive ReportedAt (text : List Char) (o : Occurrence) (i : Issue) : Prop
  | start {m : String} : i = .ofPlace text o.node.start m → ReportedAt text o i
  | inside {n : Node} {m : String} : o.LooksInside → n ∈ o.node.preorder →
    i = .ofPlace text n.start m → ReportedAt text o i
  | around : o.LooksAround → ReportedAt text o i

variable {text : List Char} {o later : Occurrence} {i j : Issue}

theorem reportedAt (found : o.issue? text = some i) : ReportedAt text o i := by
  unfold issue? at found
  dsimp only at found
  split at found
  · split at found
    · cases found
    · exact .start (Option.some.inj found).symm
  · exact .start (Option.some.inj found).symm
  · exact .start (Option.some.inj found).symm
  · split at found
    · exact .start (Option.some.inj found).symm
    · cases found
  · rcases Option.map_eq_some_iff.mp found with ⟨fault, _, rfl⟩
    exact .start rfl
  · exact .around (.inl ‹_›)
  · rcases Option.map_eq_some_iff.mp found with ⟨⟨target, what⟩, fault, rfl⟩
    exact .inside (.inr ‹_›) (DeleteTarget.fault?_mem_preorder fault) rfl
  · rcases Option.map_eq_some_iff.mp found with ⟨⟨argument, what⟩, fault, rfl⟩
    exact .inside (.inl ‹_›) (Arguments.fault?_mem_preorder fault) rfl
  · exact .around (.inr ‹_›)
  · cases found

/-- The node starts before an issue. -/
def StartsBefore (text : List Char) (o : Occurrence) (i : Issue) : Prop :=
  (Issue.ofPlace text o.node.start i.message).isBefore i = true

/-- The node starts behind an issue. -/
def StartsBehind (text : List Char) (o : Occurrence) (i : Issue) : Prop :=
  i.isBefore (Issue.ofPlace text o.node.start i.message) = true

/-- How an issue `j` with a later node may come before an issue `i` with `o`.  Either `i` lies
behind the start of the later node, which then stands inside the call or `del` statement `o`, unless
`o` looks around; or the later node looks around, and `j` lies before its start. -/
def MayOvertake (text : List Char) (o : Occurrence) (i : Issue) (later : Occurrence) (j : Issue) :
    Prop :=
  later.StartsBefore text i ∧ (o.LooksInside ∧ later.IsInside o ∨ o.LooksAround) ∨
    later.StartsBehind text j ∧ later.LooksAround

/-- Nothing is reported before the start of its node, if the rule does not look around. -/
theorem not_startsBehind (lies : o.node.IsOver text) (found : o.issue? text = some i)
    (stays : ¬ (o.StartsBehind text i ∧ o.LooksAround)) : ¬ o.StartsBehind text i := by
  have startIn := lies.placed.start_isIn
  cases reportedAt found with
  | start at_start =>
      subst at_start
      exact Issue.ofPlace_not_isBefore startIn startIn (Nat.le_refl _) _ _
  | inside _ mem at_inner =>
      subst at_inner
      exact Issue.ofPlace_not_isBefore startIn (lies _ mem).start_isIn (lies.bounds mem).1 _ _
  | around looks => exact fun behind => stays ⟨behind, looks⟩

/-- Later nodes start behind an issue, unless it is reported inside of a node that they are inside
of as well, or the rule looks around. -/
theorem not_startsBefore_of_follows (lies : o.node.IsOver text) (overLater : later.node.IsOver text)
    (follows : o.Follows later) (found : o.issue? text = some i)
    (stays : ¬ (later.StartsBefore text i ∧
      (o.LooksInside ∧ later.IsInside o ∨ o.LooksAround))) :
    ¬ later.StartsBefore text i := by
  have laterIn := overLater.placed.start_isIn
  rcases follows with ⟨ahead, nested⟩
  cases reportedAt found with
  | start at_start =>
      subst at_start
      exact Issue.ofPlace_not_isBefore lies.placed.start_isIn laterIn ahead _ _
  | inside looks mem at_inner =>
      rcases nested with within | behind
      · exact fun before => stays ⟨before, .inl ⟨looks, within⟩⟩
      · have placed := lies _ mem
        have innerStop := (lies.bounds mem).2
        have innerStart := placed.start_le_stop
        subst at_inner
        exact Issue.ofPlace_not_isBefore placed.start_isIn laterIn (by omega) _ _
  | around looks => exact fun before => stays ⟨before, .inr looks⟩

/-- Issues come in the order of their nodes, except for those that may overtake. -/
theorem not_isBefore_of_follows (lies : o.node.IsOver text) (overLater : later.node.IsOver text)
    (follows : o.Follows later) (found : o.issue? text = some i)
    (foundLater : later.issue? text = some j) (order : ¬ MayOvertake text o i later j) :
    ¬ j.isBefore i = true := by
  rcases not_or.mp order with ⟨first, second⟩
  have start := not_startsBefore_of_follows lies overLater follows found first
  exact Issue.not_isBefore_trans start (not_startsBehind overLater foundLater second)

end Occurrence

/-! ## What is reported -/

/-- No issue of a node and none of the indentation comes before an issue. -/
def IsEarliest (text : List Char) (root : Node) (r : Issue) : Prop :=
  (∀ o ∈ Occurrence.all root, ∀ j ∈ o.issue? text, ¬ j.isBefore r = true) ∧
    ∀ j ∈ Indentation.issue? text root, ¬ j.isBefore r = true

instance (text : List Char) (root : Node) (r : Issue) : Decidable (IsEarliest text root r) :=
  inferInstanceAs (Decidable (_ ∧ _))

/-- The check of the nodes stops at `o` with an issue, so that the nodes behind it stay unseen. -/
def ChecksUpTo (text : List Char) (root : Node) (o : Occurrence) (i : Issue)
    (unseen : List Occurrence) : Prop :=
  o.issue? text = some i ∧
    ∃ seen, Occurrence.all root = seen ++ o :: unseen ∧ ∀ x ∈ seen, x.issue? text = none

variable {text : List Char} {root : Node} {i r : Issue}

theorem firstStructural?_eq_some_iff :
    firstStructural? text root = some i ↔ ∃ o unseen, ChecksUpTo text root o i unseen := by
  unfold firstStructural?
  rw [List.findSome?_eq_some_iff]
  constructor
  · rintro ⟨seen, o, unseen, split, shown, clean⟩
    exact ⟨o, unseen, shown, seen, split, clean⟩
  · rintro ⟨o, unseen, shown, seen, split, clean⟩
    exact ⟨seen, o, unseen, split, shown, clean⟩

/-- What is reported does not come behind the issue that the nodes show first, nor behind that of
the indentation. -/
theorem firstViolation?_least (found : firstViolation? text root = some r) :
    (∀ i ∈ firstStructural? text root, ¬ i.isBefore r = true) ∧
      ∀ j ∈ Indentation.issue? text root, ¬ j.isBefore r = true := by
  unfold firstViolation? at found
  cases nodes : firstStructural? text root with
  | none =>
      refine ⟨fun i none => (nomatch none), fun j shown => ?_⟩
      rw [nodes, shown] at found
      cases found
      exact Issue.not_isBefore_self r
  | some i =>
      cases indents : Indentation.issue? text root with
      | none =>
          rw [nodes, indents] at found
          cases found
          refine ⟨?_, fun j none => (nomatch none)⟩
          rintro _ ⟨⟩
          exact Issue.not_isBefore_self r
      | some j =>
          rw [nodes, indents] at found
          cases found
          have least := Issue.not_isBefore_earlier i j
          refine ⟨?_, ?_⟩
          · rintro _ ⟨⟩
            exact least.1
          · rintro _ ⟨⟩
            exact least.2

/-- What is reported for a tree over a text is the earliest issue exactly if none comes before it
that may overtake the one at which the check of the nodes stops. -/
theorem firstViolation_earliest_iff (lies : root.IsOver text)
    (found : firstViolation? text root = some r) :
    IsEarliest text root r ↔
      ∀ o i unseen, ChecksUpTo text root o i unseen → ∀ later ∈ unseen, ∀ j ∈ later.issue? text,
        Occurrence.MayOvertake text o i later j → ¬ j.isBefore r = true := by
  constructor
  · rintro ⟨nodes, _⟩ o i unseen ⟨_, seen, split, _⟩ later mem j shown _
    have among : later ∈ Occurrence.all root := by
      rw [split]
      exact List.mem_append_right seen (List.mem_cons_of_mem o mem)
    exact nodes later among j shown
  · intro kept
    rcases firstViolation?_least found with ⟨first, indentation⟩
    refine ⟨?_, indentation⟩
    intro later mem j shown
    cases stop : firstStructural? text root with
    | none =>
        have clean := List.findSome?_eq_none_iff.mp stop later mem
        cases clean.symm.trans shown
    | some i =>
        rcases firstStructural?_eq_some_iff.mp stop with ⟨o, unseen, stops⟩
        have ⟨shownFirst, seen, split, clean⟩ := stops
        have notFirst := first i stop
        have order := Occurrence.pairwise_all lies
        have overAll : ∀ x ∈ Occurrence.all root, x.node.IsOver text := fun x member =>
          lies.of_mem (Occurrence.node_mem_of_mem_all member)
        rw [split] at mem order overAll
        rcases List.mem_append.mp mem with before | behind
        · cases (clean later before).symm.trans shown
        · rcases List.mem_cons.mp behind with rfl | unchecked
          · cases shownFirst.symm.trans shown
            exact notFirst
          · by_cases overtakes : Occurrence.MayOvertake text o i later j
            · exact kept o i unseen stops later unchecked j shown overtakes
            · have fromFirst := (List.pairwise_append.mp order).2.1
              have follows := List.rel_of_pairwise_cons fromFirst unchecked
              have overFirst := overAll o (List.mem_append_right seen List.mem_cons_self)
              have notBefore := Occurrence.not_isBefore_of_follows overFirst (overAll later mem)
                follows shownFirst shown overtakes
              exact Issue.not_isBefore_trans notFirst notBefore

/-- A program that calls `f` with arguments in parentheses, up to a number of bytes. -/
def callOn (stop : Nat) (arguments : List Node) : Node :=
  onLine "module" true 0 stop [
    onLine "expression_statement" true 0 stop [
      onLine "call" true 0 stop [
        onLine "identifier" true 0 1 [],
        onLine "argument_list" true 1 stop (onLine "(" false 1 2 [] :: arguments)]]]

/-- The tree of `f(a=1, b, 0777)`. -/
def callInOrder : Node :=
  callOn 15 [
    onLine "keyword_argument" true 2 5 [
      onLine "identifier" true 2 3 [], onLine "=" false 3 4 [], onLine "integer" true 4 5 []],
    onLine "," false 5 6 [],
    onLine "identifier" true 7 8 [],
    onLine "," false 8 9 [],
    onLine "integer" true 10 14 [],
    onLine ")" false 14 15 []]

/-- The argument out of order comes first, and the number behind it does not overtake it. -/
theorem callInOrder_kept :
    callInOrder.IsOver "f(a=1, b, 0777)".toList ∧
    firstViolation? "f(a=1, b, 0777)".toList callInOrder =
      some ⟨1, 8, "positional argument follows keyword argument"⟩ ∧
    ∀ o i unseen, ChecksUpTo "f(a=1, b, 0777)".toList callInOrder o i unseen →
      ∀ later ∈ unseen, ∀ j ∈ later.issue? "f(a=1, b, 0777)".toList,
        Occurrence.MayOvertake "f(a=1, b, 0777)".toList o i later j →
        ¬ j.isBefore ⟨1, 8, "positional argument follows keyword argument"⟩ = true := by
  have lies : callInOrder.IsOver "f(a=1, b, 0777)".toList := by decide
  have found : firstViolation? "f(a=1, b, 0777)".toList callInOrder =
      some ⟨1, 8, "positional argument follows keyword argument"⟩ := by decide
  refine ⟨lies, found, (firstViolation_earliest_iff lies found).mp ?_⟩
  decide

/-- The tree of `f(a=0777, b)`. -/
def callWithNested : Node :=
  callOn 12 [
    onLine "keyword_argument" true 2 8 [
      onLine "identifier" true 2 3 [], onLine "=" false 3 4 [], onLine "integer" true 4 8 []],
    onLine "," false 8 9 [],
    onLine "identifier" true 10 11 [],
    onLine ")" false 11 12 []]

/-- A number with leading zeros inside of a call is not reported if an argument behind it is out of
order. -/
theorem nested_integer_reported_late :
    callWithNested.IsOver "f(a=0777, b)".toList ∧ callWithNested.hasError = false ∧
    firstViolation? "f(a=0777, b)".toList callWithNested =
      some ⟨1, 11, "positional argument follows keyword argument"⟩ ∧
    ∃ o ∈ Occurrence.all callWithNested, ∃ j ∈ o.issue? "f(a=0777, b)".toList,
      j.isBefore ⟨1, 11, "positional argument follows keyword argument"⟩ = true := by
  decide

end Checkup.Syntax
