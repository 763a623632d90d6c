import Checkup.Proofs.Steps
import Checkup.Proofs.Syntax.Extras
import Mathlib.Computability.RegularExpressions

/-!
# The grammar of call arguments

Arguments are in order exactly if their kinds match `(P|S)* (K|S)* (K|D)*`, where `P` stands for
positional arguments, `S` for unpacked sequences, `K` for keyword arguments and `D` for unpacked
mappings.

* `behind` is the language of what may still come, one for each state of the scan.
* `cons_mem_behind_iff` is about one argument, and `map_append_mem_behind_iff` about a run of them:
  the scan takes what the language goes on with.
* `stops_iff` says where the scan stops and why.
* `fault?_grammar` is the grammar for calls, with what is reported of those that are not in it.
-/

namespace Checkup.Syntax.Arguments

open Computability

/-! ## Letters, then a language -/

section Star

variable {α : Type} {A L : Language α} {a : α} {w : List α}

/-- No letters may be there. -/
theorem mem_kstar_mul_of_mem (member : w ∈ L) : w ∈ A∗ * L :=
  Language.append_mem_mul (Language.nil_mem_kstar A) member

/-- The first letter is one of the letters or the language has begun. -/
theorem cons_mem_kstar_mul_iff (letters : ∀ u ∈ A, ∃ b, u = [b]) :
    a :: w ∈ A∗ * L ↔ [a] ∈ A ∧ w ∈ A∗ * L ∨ a :: w ∈ L := by
  have unfolded : A∗ * L = L + A * (A∗ * L) :=
    calc A∗ * L = (1 + A * A∗) * L := by rw [Language.one_add_self_mul_kstar_eq_kstar]
      _ = L + A * (A∗ * L) := by rw [add_mul, one_mul, mul_assoc]
  constructor
  · intro member
    rw [unfolded] at member
    rcases member with begun | ⟨u, inA, v, later, split⟩
    · exact .inr begun
    · obtain ⟨b, rfl⟩ := letters u inA
      cases split
      exact .inl ⟨inA, later⟩
  · intro h
    rcases h with ⟨inA, later⟩ | begun
    · rw [unfolded]
      exact .inr (Language.append_mem_mul inA later)
    · exact mem_kstar_mul_of_mem begun

end Star

/-! ## What may come behind arguments -/

open RegularExpression (char)

/-- Arguments of two kinds, any number of them. -/
def anyOf (k k' : Kind) : RegularExpression Kind := (char k + char k').star

/-- `(K|D)*` -/
def lastPart : RegularExpression Kind := anyOf .keyword .mapping

/-- `(K|S)* (K|D)*` -/
def laterParts : RegularExpression Kind := anyOf .keyword .sequence * lastPart

/-- `(P|S)* (K|S)* (K|D)*` -/
def inOrder : RegularExpression Kind := anyOf .positional .sequence * laterParts

/-- Kinds of arguments with which a call in order may begin. -/
def IsBegun (kinds : List Kind) : Prop := ∃ rest, kinds ++ rest ∈ inOrder.matches'

/-- What may come behind arguments among which there were keywords or mappings or not. -/
def behind : Bool × Bool → Language Kind
  | (_, true) => lastPart.matches'
  | (true, false) => laterParts.matches'
  | (false, false) => inOrder.matches'

section Behind

variable {k k₁ k₂ : Kind} {ks : List Kind} {r : RegularExpression Kind}

theorem mem_anyOf_mul_of_mem (member : ks ∈ r.matches') : ks ∈ (anyOf k₁ k₂ * r).matches' :=
  mem_kstar_mul_of_mem member

theorem cons_mem_anyOf_mul_iff :
    k :: ks ∈ (anyOf k₁ k₂ * r).matches' ↔
      (k = k₁ ∨ k = k₂) ∧ ks ∈ (anyOf k₁ k₂ * r).matches' ∨ k :: ks ∈ r.matches' := by
  have single : [k] ∈ ({[k₁]} + {[k₂]} : Language Kind) ↔ k = k₁ ∨ k = k₂ := by
    rw [Language.mem_add]
    exact or_congr List.singleton_inj List.singleton_inj
  rw [← single]
  apply cons_mem_kstar_mul_iff
  intro u member
  rcases member with rfl | rfl
  · exact ⟨k₁, rfl⟩
  · exact ⟨k₂, rfl⟩

theorem nil_mem_anyOf : [] ∈ (anyOf k₁ k₂).matches' := Language.nil_mem_kstar _

theorem cons_mem_anyOf_iff :
    k :: ks ∈ (anyOf k₁ k₂).matches' ↔ (k = k₁ ∨ k = k₂) ∧ ks ∈ (anyOf k₁ k₂).matches' := by
  have alone : (anyOf k₁ k₂ * 1).matches' = (anyOf k₁ k₂).matches' := mul_one _
  have nothing : k :: ks ∉ (1 : RegularExpression Kind).matches' := List.cons_ne_nil k ks
  rw [← alone, cons_mem_anyOf_mul_iff, or_iff_left nothing]

theorem cons_mem_lastPart_iff :
    k :: ks ∈ lastPart.matches' ↔
      (k = .keyword ∨ k = .mapping) ∧ ks ∈ lastPart.matches' :=
  cons_mem_anyOf_iff

theorem cons_mem_laterParts_iff :
    k :: ks ∈ laterParts.matches' ↔
      (k = .keyword ∨ k = .sequence) ∧ ks ∈ laterParts.matches' ∨
        k = .mapping ∧ ks ∈ lastPart.matches' := by
  unfold laterParts
  rw [cons_mem_anyOf_mul_iff, cons_mem_lastPart_iff]
  constructor
  · intro h
    rcases h with ⟨kind, later⟩ | ⟨keyword | mapping, last⟩
    · exact .inl ⟨kind, later⟩
    · exact .inl ⟨.inl keyword, mem_anyOf_mul_of_mem last⟩
    · exact .inr ⟨mapping, last⟩
  · intro h
    rcases h with ⟨kind, later⟩ | ⟨mapping, last⟩
    · exact .inl ⟨kind, later⟩
    · exact .inr ⟨.inr mapping, last⟩

theorem cons_mem_inOrder_iff :
    k :: ks ∈ inOrder.matches' ↔
      (k = .positional ∨ k = .sequence) ∧ ks ∈ inOrder.matches' ∨
        k = .keyword ∧ ks ∈ laterParts.matches' ∨ k = .mapping ∧ ks ∈ lastPart.matches' := by
  unfold inOrder
  rw [cons_mem_anyOf_mul_iff, cons_mem_laterParts_iff]
  constructor
  · intro h
    rcases h with ⟨kind, all⟩ | ⟨keyword | sequence, later⟩ | ⟨mapping, last⟩
    · exact .inl ⟨kind, all⟩
    · exact .inr (.inl ⟨keyword, later⟩)
    · exact .inl ⟨.inr sequence, mem_anyOf_mul_of_mem later⟩
    · exact .inr (.inr ⟨mapping, last⟩)
  · intro h
    rcases h with ⟨kind, all⟩ | ⟨keyword, later⟩ | ⟨mapping, last⟩
    · exact .inl ⟨kind, all⟩
    · exact .inr (.inl ⟨.inl keyword, later⟩)
    · exact .inr (.inr ⟨mapping, last⟩)

theorem nil_mem_behind (seen : Bool × Bool) : [] ∈ behind seen := by
  have last : [] ∈ lastPart.matches' := nil_mem_anyOf
  rcases seen with ⟨_ | _, _ | _⟩
  · exact mem_anyOf_mul_of_mem (mem_anyOf_mul_of_mem last)
  · exact last
  · exact mem_anyOf_mul_of_mem last
  · exact last

/-- An argument may come next exactly if the scan takes it, and behind it what may come behind the
arguments that the scan has then seen. -/
theorem cons_mem_behind_iff (seen : Bool × Bool) (a : Node) :
    kindOf a :: ks ∈ behind seen ↔ ∃ next, step seen a = .ok next ∧ ks ∈ behind next := by
  rw [step]
  rcases seen with ⟨_ | _, _ | _⟩
  · unfold behind
    rw [cons_mem_inOrder_iff]
    cases kindOf a <;> simp
  · unfold behind
    rw [cons_mem_lastPart_iff]
    cases kindOf a <;> simp
  · unfold behind
    rw [cons_mem_laterParts_iff]
    cases kindOf a <;> simp
  · unfold behind
    rw [cons_mem_lastPart_iff]
    cases kindOf a <;> simp

/-- So it is with arguments one after the other. -/
theorem map_append_mem_behind_iff (seen : Bool × Bool) (l : List Node) :
    l.map kindOf ++ ks ∈ behind seen ↔
      ∃ next, l.foldlM step seen = .ok next ∧ ks ∈ behind next := by
  induction l generalizing seen with
  | nil =>
      constructor
      · intro member
        exact ⟨seen, rfl, member⟩
      · intro h
        rcases h with ⟨next, same, member⟩
        cases same
        exact member
  | cons a l ih =>
      rw [List.map_cons, List.cons_append, cons_mem_behind_iff, List.foldlM_cons]
      simp only [ih, bind_eq_ok_iff]
      constructor
      · intro h
        rcases h with ⟨next, taken, last, ran, member⟩
        exact ⟨last, ⟨next, taken, ran⟩, member⟩
      · intro h
        rcases h with ⟨last, ⟨next, taken, ran⟩, member⟩
        exact ⟨next, taken, last, ran, member⟩

end Behind

/-- The scan passes over just what calls in order can begin with. -/
theorem isBegun_iff (l : List Node) :
    IsBegun (l.map kindOf) ↔ ∃ reached, l.foldlM step (false, false) = .ok reached := by
  constructor
  · intro h
    rcases h with ⟨rest, member⟩
    obtain ⟨reached, ran, -⟩ := (map_append_mem_behind_iff (false, false) l).mp member
    exact ⟨reached, ran⟩
  · intro h
    rcases h with ⟨reached, ran⟩
    exact ⟨[], (map_append_mem_behind_iff (false, false) l).mpr ⟨reached, ran, nil_mem_behind _⟩⟩

/-- What calls in order can begin with is in order itself. -/
theorem isBegun_iff_mem (l : List Node) :
    IsBegun (l.map kindOf) ↔ l.map kindOf ∈ inOrder.matches' := by
  constructor
  · intro begun
    obtain ⟨reached, ran⟩ := (isBegun_iff l).mp begun
    have member := (map_append_mem_behind_iff (false, false) l).mpr
      ⟨reached, ran, nil_mem_behind reached⟩
    rwa [List.append_nil] at member
  · intro member
    exact ⟨[], by rwa [List.append_nil]⟩

theorem IsBegun.of_prefix {ks ks' : List Kind} (begun : IsBegun ks) (shorter : ks' <+: ks) :
    IsBegun ks' := by
  obtain ⟨rest, member⟩ := begun
  obtain ⟨more, rfl⟩ := shorter
  exact ⟨more ++ rest, by rwa [← List.append_assoc]⟩

/-! ## Where the scan stops -/

theorem misplaced?_eq_none_iff (seen : Bool × Bool) (l : List Node) :
    misplaced? seen.1 seen.2 l = none ↔ ∃ reached, l.foldlM step seen = .ok reached := by
  constructor
  · intro fine
    exact ⟨_, (foldlM_step_iff seen l _).mpr ⟨fine, rfl⟩⟩
  · intro h
    rcases h with ⟨reached, ran⟩
    exact ((foldlM_step_iff seen l reached).mp ran).1

open Classical in
/-- The argument that is reported is the one at which the scan stops. -/
theorem misplaced?_eq_some_iff (seen : Bool × Bool) (l : List Node) {a : Node}
    {fault : ArgumentFault} :
    misplaced? seen.1 seen.2 l = some (a, fault) ↔
      StopsAt step (fun b => decide (b = a)) seen l fault := by
  induction l generalizing seen with
  | nil => exact iff_of_false nofun not_stopsAt_nil
  | cons b l ih =>
      rw [misplaced?_cons]
      cases taken : step seen b with
      | error stop =>
          rw [stopsAt_cons_of_error taken, decide_eq_true_eq, Option.some_inj, Prod.mk_inj]
      | ok next => rw [stopsAt_cons_of_ok taken, ← ih]

theorem step_eq_error_iff {seen : Bool × Bool} {a : Node} {fault : ArgumentFault} :
    step seen a = .error fault ↔
      kindOf a = .sequence ∧ seen.2 = true ∧ fault = .sequenceAfterMapping ∨
        kindOf a = .positional ∧ seen.2 = true ∧ fault = .positionalAfterMapping ∨
        kindOf a = .positional ∧ seen.1 = true ∧ seen.2 = false ∧
          fault = .positionalAfterKeyword := by
  rw [step]
  rcases seen with ⟨_ | _, _ | _⟩ <;> cases kindOf a <;> simp [eq_comm]

/-- What is wrong with an argument behind others, if it cannot stand there. -/
def IsFaultOf (before : List Node) (a : Node) (fault : ArgumentFault) : Prop :=
  kindOf a = .sequence ∧ fault = .sequenceAfterMapping ∨
    kindOf a = .positional ∧ (∃ b ∈ before, kindOf b = .mapping) ∧
      fault = .positionalAfterMapping ∨
    kindOf a = .positional ∧ (∃ b ∈ before, kindOf b = .keyword) ∧
      (∀ b ∈ before, kindOf b ≠ .mapping) ∧ fault = .positionalAfterKeyword

section Stop

variable {before : List Node} {a : Node} {fault : ArgumentFault} {reached : Bool × Bool}

theorem seen_keyword_iff (ran : before.foldlM step (false, false) = .ok reached) :
    reached.1 = true ↔ ∃ b ∈ before, kindOf b = .keyword := by
  obtain ⟨-, rfl⟩ := (foldlM_step_iff (false, false) before reached).mp ran
  simp [seenAmong]

theorem seen_mapping_iff (ran : before.foldlM step (false, false) = .ok reached) :
    reached.2 = true ↔ ∃ b ∈ before, kindOf b = .mapping := by
  obtain ⟨-, rfl⟩ := (foldlM_step_iff (false, false) before reached).mp ran
  simp [seenAmong]

theorem not_seen_mapping_iff (ran : before.foldlM step (false, false) = .ok reached) :
    reached.2 = false ↔ ∀ b ∈ before, kindOf b ≠ .mapping := by
  rw [← Bool.not_eq_true, seen_mapping_iff ran]
  simp

theorem isBegun_snoc_iff (ran : before.foldlM step (false, false) = .ok reached) :
    IsBegun ((before ++ [a]).map kindOf) ↔ ∃ next, step reached a = .ok next := by
  have last : [a].foldlM step reached = step reached a := by
    rw [List.foldlM_cons]
    exact bind_pure _
  rw [isBegun_iff, List.foldlM_append, ran, ← last]
  rfl

/-- The scan stops behind a beginning of a call, at an argument that does not go on with it. -/
theorem stops_iff :
    (∃ reached, before.foldlM step (false, false) = .ok reached ∧
        step reached a = .error fault) ↔
      IsBegun (before.map kindOf) ∧ ¬ IsBegun ((before ++ [a]).map kindOf) ∧
        IsFaultOf before a fault := by
  constructor
  · intro h
    rcases h with ⟨reached, ran, stops⟩
    refine ⟨(isBegun_iff before).mpr ⟨reached, ran⟩, ?_, ?_⟩
    · rw [isBegun_snoc_iff ran, stops]
      exact nofun
    · rcases step_eq_error_iff.mp stops with ⟨kind, -, what⟩ | ⟨kind, mapping, what⟩ |
        ⟨kind, keyword, none, what⟩
      · exact .inl ⟨kind, what⟩
      · exact .inr (.inl ⟨kind, (seen_mapping_iff ran).mp mapping, what⟩)
      · exact .inr (.inr ⟨kind, (seen_keyword_iff ran).mp keyword,
          (not_seen_mapping_iff ran).mp none, what⟩)
  · intro h
    rcases h with ⟨begun, ends, faulty⟩
    obtain ⟨reached, ran⟩ := (isBegun_iff before).mp begun
    refine ⟨reached, ran, ?_⟩
    rcases faulty with ⟨kind, what⟩ | ⟨kind, mapping, what⟩ | ⟨kind, keyword, none, what⟩
    · have mapping : reached.2 = true := by
        cases seen : reached.2 with
        | true => rfl
        | false =>
            have taken : step reached a = .ok reached := by
              rw [step, kind, seen]
              rfl
            exact (ends ((isBegun_snoc_iff ran).mpr ⟨reached, taken⟩)).elim
      exact step_eq_error_iff.mpr (.inl ⟨kind, mapping, what⟩)
    · exact step_eq_error_iff.mpr (.inr (.inl ⟨kind, (seen_mapping_iff ran).mpr mapping, what⟩))
    · exact step_eq_error_iff.mpr (.inr (.inr ⟨kind, (seen_keyword_iff ran).mpr keyword,
        (not_seen_mapping_iff ran).mpr none, what⟩))

end Stop

theorem exists_isFaultOf_iff {before : List Node} {a : Node} {text : String} :
    (∃ fault, IsFaultOf before a fault ∧ fault.message = text) ↔
      kindOf a = .sequence ∧
          text = "iterable argument unpacking follows keyword argument unpacking" ∨
        kindOf a = .positional ∧ (∃ b ∈ before, kindOf b = .mapping) ∧
          text = "positional argument follows keyword argument unpacking" ∨
        kindOf a = .positional ∧ (∃ b ∈ before, kindOf b = .keyword) ∧
          (∀ b ∈ before, kindOf b ≠ .mapping) ∧
          text = "positional argument follows keyword argument" := by
  constructor
  · intro h
    rcases h with ⟨fault, ⟨kind, rfl⟩ | ⟨kind, mapping, rfl⟩ | ⟨kind, keyword, none, rfl⟩, rfl⟩
    · exact .inl ⟨kind, rfl⟩
    · exact .inr (.inl ⟨kind, mapping, rfl⟩)
    · exact .inr (.inr ⟨kind, keyword, none, rfl⟩)
  · intro h
    rcases h with ⟨kind, rfl⟩ | ⟨kind, mapping, rfl⟩ | ⟨kind, keyword, none, rfl⟩
    · exact ⟨.sequenceAfterMapping, .inl ⟨kind, rfl⟩, rfl⟩
    · exact ⟨.positionalAfterMapping, .inr (.inl ⟨kind, mapping, rfl⟩), rfl⟩
    · exact ⟨.positionalAfterKeyword, .inr (.inr ⟨kind, keyword, none, rfl⟩), rfl⟩

open Classical in
/-- The argument that is reported, with what is wrong with it. -/
theorem fault?_eq_some_iff {call a : Node} {fault : ArgumentFault} :
    fault? call = some (a, fault) ↔
      ∃ before after, call.parts = before ++ a :: after ∧
        IsBegun (before.map kindOf) ∧ ¬ IsBegun ((before ++ [a]).map kindOf) ∧
          IsFaultOf before a fault := by
  unfold fault?
  rw [misplaced?_eq_some_iff (false, false)]
  simp only [← stops_iff]
  constructor
  · intro h
    rcases h with ⟨before, b, after, reached, split, same, ran, stops⟩
    cases of_decide_eq_true same
    exact ⟨before, after, split, reached, ran, stops⟩
  · intro h
    rcases h with ⟨before, after, split, reached, ran, stops⟩
    exact ⟨before, a, after, reached, split, decide_eq_true rfl, ran, stops⟩

/-- Calls are in order exactly if the kinds of their arguments match `(P|S)* (K|S)* (K|D)*`.  Of
another call, the first argument is reported with which it is no beginning of a call in order, in
words that depend on its kind and on the kinds of the arguments before it. -/
theorem fault?_grammar (call : Node) :
    (fault? call = none ↔ call.parts.map kindOf ∈ inOrder.matches') ∧
    ∀ a text, (fault? call).map (fun found => (found.1, found.2.message)) = some (a, text) ↔
      ∃ before after, call.parts = before ++ a :: after ∧
        (∀ shorter, shorter <+: before → IsBegun (shorter.map kindOf)) ∧
        ¬ IsBegun ((before ++ [a]).map kindOf) ∧
        (kindOf a = .sequence ∧
            text = "iterable argument unpacking follows keyword argument unpacking" ∨
          kindOf a = .positional ∧ (∃ b ∈ before, kindOf b = .mapping) ∧
            text = "positional argument follows keyword argument unpacking" ∨
          kindOf a = .positional ∧ (∃ b ∈ before, kindOf b = .keyword) ∧
            (∀ b ∈ before, kindOf b ≠ .mapping) ∧
            text = "positional argument follows keyword argument") := by
  constructor
  · rw [← isBegun_iff_mem, isBegun_iff]
    exact misplaced?_eq_none_iff (false, false) call.parts
  · intro a text
    rw [Option.map_eq_some_iff]
    constructor
    · intro h
      rcases h with ⟨⟨_, fault⟩, reported, same⟩
      cases same
      obtain ⟨before, after, split, begun, ends, faulty⟩ := fault?_eq_some_iff.mp reported
      refine ⟨before, after, split, ?_, ends, exists_isFaultOf_iff.mp ⟨fault, faulty, rfl⟩⟩
      intro shorter first
      exact begun.of_prefix (first.map kindOf)
    · intro h
      rcases h with ⟨before, after, split, begun, ends, said⟩
      obtain ⟨fault, faulty, rfl⟩ := exists_isFaultOf_iff.mpr said
      exact ⟨(a, fault), fault?_eq_some_iff.mpr
        ⟨before, after, split, begun before (List.prefix_refl before), ends, faulty⟩, rfl⟩

/-- In `f(a, **b, *c)`, the unpacked sequence is out of order. -/
example : [.positional, .mapping, .sequence] ∉ inOrder.matches' := by decide

end Checkup.Syntax.Arguments
