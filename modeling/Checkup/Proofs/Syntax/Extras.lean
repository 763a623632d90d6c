import Checkup.Proofs.Syntax.Targets
import Checkup.Syntax.Rule.Arguments

/-!
# Comments and line continuations among arguments and targets

Comments and line continuations may stand between any two tokens, and `Interspersed` puts them
anywhere into lists of nodes and into the groups in them.  The rules leave comments out.  A line
continuation counts as a part: it is a positional argument, or a target that cannot be deleted.

* `firstFault_filter_iff` is about any scan over a list with elements that it either passes over or
  stops at: leaving these out changes nothing exactly if the scan stops at none of them.
* `extras_keep_verdict_iff` says so of both rules, and `line_continuation_changes_verdict` is a call
  that is rejected for nothing else.
-/

namespace Checkup.Syntax

/-- Nodes that may stand between any two tokens. -/
def isExtra (n : Node) : Bool := n.named && (n.kind = "comment" || n.kind = "line_continuation")

/-- The second list is the first one with extras in it, and in its groups at any depth.  Nothing is
said of where the nodes are and of parts that the rules do not look into. -/
inductive Interspersed : List Node → List Node → Prop
  | nil : Interspersed [] []
  | extra {e : Node} {ns ms : List Node} : isExtra e = true → Interspersed ns ms →
    Interspersed ns (e :: ms)
  | single {n m : Node} {ns ms : List Node} : isExtra n = false → n.kind = m.kind →
    n.named = m.named → DeleteTarget.isGroup n.kind = false → Interspersed ns ms →
    Interspersed (n :: ns) (m :: ms)
  | group {n m : Node} {ns ms : List Node} : isExtra n = false → n.kind = m.kind →
    n.named = m.named → DeleteTarget.isGroup n.kind = true → Interspersed n.children m.children →
    Interspersed ns ms → Interspersed (n :: ns) (m :: ms)

/-! ## Scans that stop at a fault -/

section Scan

variable {α β σ : Type}

/-- The fault at which a scan stops. -/
def firstFault (step : σ → α → Except β σ) (s : σ) : List α → Option β
  | [] => none
  | a :: rest =>
    match step s a with
    | .error fault => some fault
    | .ok next => firstFault step next rest

variable {step : σ → α → Except β σ} {p : α → Bool}

/-- A scan stops with a fault at one of some elements. -/
def StopsAt (step : σ → α → Except β σ) (p : α → Bool) (s : σ) (l : List α) (fault : β) : Prop :=
  ∃ before a rest reached, l = before ++ a :: rest ∧ p a = true ∧
    before.foldlM step s = .ok reached ∧ step reached a = .error fault

theorem not_stopsAt_nil {s : σ} {fault : β} : ¬ StopsAt step p s [] fault := by
  rintro ⟨before, a, rest, reached, split, -⟩
  cases before <;> cases split

theorem stopsAt_cons_of_error {s : σ} {a : α} {l : List α} {first fault : β}
    (taken : step s a = .error first) :
    StopsAt step p s (a :: l) fault ↔ p a = true ∧ first = fault := by
  constructor
  · rintro ⟨before, other, rest, reached, split, holds, ok, stop⟩
    cases before with
    | nil =>
        cases split
        cases ok
        exact ⟨holds, Except.error.inj (taken.symm.trans stop)⟩
    | cons b before =>
        cases split
        rw [List.foldlM_cons, taken] at ok
        cases ok
  · rintro ⟨holds, rfl⟩
    exact ⟨[], a, l, s, rfl, holds, rfl, taken⟩

theorem stopsAt_cons_of_ok {s next : σ} {a : α} {l : List α} {fault : β}
    (taken : step s a = .ok next) :
    StopsAt step p s (a :: l) fault ↔ StopsAt step p next l fault := by
  constructor
  · rintro ⟨before, other, rest, reached, split, holds, ok, stop⟩
    cases before with
    | nil =>
        cases split
        cases ok
        cases taken.symm.trans stop
    | cons b before =>
        cases split
        rw [List.foldlM_cons, taken] at ok
        exact ⟨before, other, rest, reached, rfl, holds, ok, stop⟩
  · rintro ⟨before, other, rest, reached, rfl, holds, ok, stop⟩
    refine ⟨a :: before, other, rest, reached, rfl, holds, ?_, stop⟩
    rw [List.foldlM_cons, taken]
    exact ok

/-- If a scan passes over some elements unless it stops at them, leaving them out keeps its fault
exactly if that is also the fault with which it stops at one of them. -/
theorem firstFault_filter_iff (pass : ∀ s a next, p a = true → step s a = .ok next → next = s)
    (s : σ) (l : List α) :
    firstFault step s l = firstFault step s (l.filter fun a => !p a) ↔
      ∀ fault, StopsAt step p s l fault →
        firstFault step s (l.filter fun a => !p a) = some fault := by
  induction l generalizing s with
  | nil =>
      refine iff_of_true rfl ?_
      intro fault stops
      exact (not_stopsAt_nil stops).elim
  | cons a l ih =>
      by_cases skipped : p a = true
      · rw [List.filter_cons_of_neg (by simp [skipped]), firstFault]
        cases taken : step s a with
        | error first =>
            simp only [stopsAt_cons_of_error taken, skipped, true_and, forall_eq']
            exact eq_comm
        | ok next =>
            cases pass s a next skipped taken
            simp only [stopsAt_cons_of_ok taken]
            exact ih s
      · rw [List.filter_cons_of_pos (by simp [skipped]), firstFault, firstFault]
        cases taken : step s a with
        | error first =>
            simp only [stopsAt_cons_of_error taken, skipped, false_and, false_implies,
              implies_true, Bool.false_eq_true]
        | ok next =>
            simp only [stopsAt_cons_of_ok taken]
            exact ih next

/-- A scan that looks at a part of the elements only depends on that part of the list. -/
theorem firstFault_congr {γ : Type} {f : α → γ} (same : ∀ s a b, f a = f b → step s a = step s b)
    {l₁ l₂ : List α} (maps : l₁.map f = l₂.map f) (s : σ) :
    firstFault step s l₁ = firstFault step s l₂ := by
  induction l₁ generalizing l₂ s with
  | nil =>
      cases l₂ with
      | nil => rfl
      | cons b l₂ => cases maps
  | cons a l₁ ih =>
      cases l₂ with
      | nil => cases maps
      | cons b l₂ =>
          obtain ⟨head, tail⟩ := List.cons.inj maps
          rw [firstFault, firstFault, same s a b head]
          cases step s b with
          | error fault => rfl
          | ok next => exact ih tail next

end Scan

/-! ## Both rules as scans -/

def isContinuation (n : Node) : Bool := n.kind = "line_continuation"

namespace Arguments

/-- What an argument is behind others, among which there were keywords or mappings or not. -/
def step (seen : Bool × Bool) (a : Node) : Except ArgumentFault (Bool × Bool) :=
  match kindOf a with
  | .keyword => .ok (true, seen.2)
  | .mapping => .ok (seen.1, true)
  | .sequence => if seen.2 then .error .sequenceAfterMapping else .ok seen
  | .positional =>
    if seen.2 then .error .positionalAfterMapping
    else if seen.1 then .error .positionalAfterKeyword
    else .ok seen

theorem misplaced?_cons (seen : Bool × Bool) (a : Node) (l : List Node) :
    misplaced? seen.1 seen.2 (a :: l) =
      match step seen a with
      | .error fault => some (a, fault)
      | .ok next => misplaced? next.1 next.2 l := by
  rw [misplaced?, step]
  rcases seen with ⟨_ | _, _ | _⟩ <;> cases kindOf a <;> rfl

theorem misplaced?_eq_firstFault (seen : Bool × Bool) (l : List Node) :
    (misplaced? seen.1 seen.2 l).map (·.2) = firstFault step seen l := by
  induction l generalizing seen with
  | nil => rfl
  | cons a l ih =>
      rw [misplaced?_cons, firstFault]
      cases step seen a with
      | error fault => rfl
      | ok next => exact ih next

theorem kindOf_eq_keyword_iff {a : Node} : kindOf a = .keyword ↔ a.kind = "keyword_argument" := by
  rw [kindOf]
  split
  · exact iff_of_true rfl ‹_›
  · refine iff_of_false ?_ ‹_›
    split
    · exact nofun
    · split <;> exact nofun

theorem kindOf_eq_mapping_iff {a : Node} : kindOf a = .mapping ↔ a.kind = "dictionary_splat" := by
  rw [kindOf]
  split
  · next keyword => exact iff_of_false nofun (by rw [keyword]; decide)
  · split
    · exact iff_of_true rfl ‹_›
    · refine iff_of_false ?_ ‹_›
      split <;> exact nofun

/-- Whether there are keywords, and mappings, among arguments. -/
def seenAmong (l : List Node) : Bool × Bool :=
  (l.any (kindOf · = .keyword), l.any (kindOf · = .mapping))

/-- Arguments in order are passed over, and what they are is kept in mind. -/
theorem foldlM_step_iff (seen : Bool × Bool) (l : List Node) (reached : Bool × Bool) :
    l.foldlM step seen = .ok reached ↔
      misplaced? seen.1 seen.2 l = none ∧
        reached = (seen.1 || (seenAmong l).1, seen.2 || (seenAmong l).2) := by
  induction l generalizing seen with
  | nil =>
      simp only [List.foldlM_nil, misplaced?, seenAmong, List.any_nil, Bool.or_false, true_and]
      exact ⟨fun ok => (Except.ok.inj ok).symm, fun same => by rw [same]; rfl⟩
  | cons a l ih =>
      obtain ⟨keyword, mapping⟩ := seen
      rw [List.foldlM_cons, misplaced?, step]
      simp only [seenAmong, List.any_cons] at ih ⊢
      cases kindOf a with
      | keyword => simpa [bind, Except.bind] using ih (true, mapping)
      | mapping => simpa [bind, Except.bind] using ih (keyword, true)
      | sequence =>
          cases mapping with
          | true => simp [bind, Except.bind]
          | false => simpa [bind, Except.bind] using ih (keyword, false)
      | positional =>
          cases mapping with
          | true => simp [bind, Except.bind]
          | false =>
              cases keyword with
              | true => simp [bind, Except.bind]
              | false => simpa [bind, Except.bind] using ih (false, false)

theorem step_congr (seen : Bool × Bool) (a b : Node) (kinds : a.kind = b.kind) :
    step seen a = step seen b := by
  rw [step, step, kindOf, kindOf, kinds]

/-- A line continuation is taken for a positional argument. -/
theorem step_continuation {c : Node} (continuation : isContinuation c = true)
    (seen : Bool × Bool) :
    step seen c =
      if seen.2 then .error .positionalAfterMapping
      else if seen.1 then .error .positionalAfterKeyword
      else .ok seen := by
  have kind : c.kind = "line_continuation" := of_decide_eq_true continuation
  have positional : kindOf c = .positional := by
    rw [kindOf, kind]
    decide
  rw [step, positional]

end Arguments

namespace DeleteTarget

/-- What a target is to a scan. -/
def step (_ : Unit) (t : Node) : Except Undeletable Unit :=
  if isDeletable t.kind then .ok () else .error (.ofKind t.kind)

theorem findSome?_eq_firstFault (l : List Node) :
    (l.findSome? undeletable?).map (·.2) = firstFault step () l := by
  induction l with
  | nil => rfl
  | cons t l ih =>
      rw [List.findSome?_cons, firstFault, undeletable?, step]
      by_cases deletable : isDeletable t.kind
      · simpa [deletable] using ih
      · simp [deletable]

theorem foldlM_step_iff (l : List Node) :
    l.foldlM step () = .ok () ↔ ∀ t ∈ l, isDeletable t.kind = true := by
  induction l with
  | nil => exact iff_of_true rfl (List.forall_mem_nil _)
  | cons t l ih =>
      rw [List.foldlM_cons, step, List.forall_mem_cons]
      by_cases deletable : isDeletable t.kind
      · simpa [deletable, bind, Except.bind] using ih
      · simp [deletable, bind, Except.bind]

theorem step_congr (s : Unit) (a b : Node) (kinds : a.kind = b.kind) : step s a = step s b := by
  rw [step, step, kinds]

/-- A line continuation is taken for an expression. -/
theorem step_continuation {c : Node} (continuation : isContinuation c = true) (s : Unit) :
    step s c = .error .expression := by
  have kind : c.kind = "line_continuation" := of_decide_eq_true continuation
  rw [step, kind]
  rfl

end DeleteTarget

/-! ## What extras leave the same -/

/-- Whether a node counts among the parts of another one. -/
def counts (n : Node) : Bool := n.named && n.kind ≠ "comment"

/-- An extra does not count, or is a line continuation. -/
theorem eq_comment_or_isContinuation {e : Node} (extra : isExtra e = true) :
    counts e = false ∨ counts e = true ∧ isContinuation e = true := by
  simp only [isExtra, Bool.and_eq_true, Bool.or_eq_true, decide_eq_true_eq] at extra
  rcases extra with ⟨named, comment | continuation⟩
  · exact .inl (by simp [counts, comment])
  · exact .inr ⟨by simp [counts, named, continuation], by simp [isContinuation, continuation]⟩

/-- Of the nodes that count, those that are no extras are no line continuations. -/
theorem not_isContinuation {n m : Node} (plain : isExtra n = false) (kinds : n.kind = m.kind)
    (named : n.named = m.named) (counted : counts m = true) : isContinuation m = false := by
  simp only [counts, Bool.and_eq_true] at counted
  cases continuation : isContinuation m with
  | false => rfl
  | true =>
      rw [isContinuation, decide_eq_true_eq] at continuation
      simp [isExtra, named, counted.1, kinds, continuation] at plain

theorem counts_congr {n m : Node} (kinds : n.kind = m.kind) (named : n.named = m.named) :
    counts n = counts m := by
  rw [counts, counts, kinds, named]

namespace Interspersed

variable {ns ms : List Node}

/-- Nodes of one kind in front keep the kinds of the parts the same. -/
theorem kinds_cons {n m : Node} (plain : isExtra n = false) (kinds : n.kind = m.kind)
    (named : n.named = m.named)
    (tail : (ns.filter counts).map (·.kind) =
      ((ms.filter counts).filter fun m => !isContinuation m).map (·.kind)) :
    ((n :: ns).filter counts).map (·.kind) =
      (((m :: ms).filter counts).filter fun m => !isContinuation m).map (·.kind) := by
  have same := counts_congr kinds named
  by_cases counted : counts m = true
  · have part := not_isContinuation plain kinds named counted
    simp [same, counted, part, kinds, tail]
  · simp [same, counted, tail]

/-- The parts are of the same kinds, but for the line continuations. -/
theorem parts_kinds (extras : Interspersed ns ms) :
    (ns.filter counts).map (·.kind) =
      ((ms.filter counts).filter fun m => !isContinuation m).map (·.kind) := by
  induction extras with
  | nil => rfl
  | @extra e ns ms extra _ ih =>
      rcases eq_comment_or_isContinuation extra with dropped | ⟨counted, continuation⟩
      · simp [dropped, ih]
      · simp [counted, continuation, ih]
  | single plain kinds named _ _ ih => exact kinds_cons plain kinds named ih
  | group plain kinds named _ _ _ _ ih => exact kinds_cons plain kinds named ih

/-- The targets are of the same kinds, but for the line continuations. -/
theorem targets_kinds (extras : Interspersed ns ms) :
    (DeleteTarget.targets ns).map (·.kind) =
      ((DeleteTarget.targets ms).filter fun m => !isContinuation m).map (·.kind) := by
  have counted_iff (n : Node) : (n.named && n.kind ≠ "comment") = counts n := rfl
  induction extras with
  | nil => rfl
  | @extra e ns ms extra _ ih =>
      rw [DeleteTarget.targets, counted_iff]
      rcases eq_comment_or_isContinuation extra with dropped | ⟨counted, continuation⟩
      · rw [if_neg (by simp [dropped]), ih]
      · have single : DeleteTarget.isGroup e.kind = false := by
          rw [of_decide_eq_true continuation]
          decide
        rw [if_pos counted, DeleteTarget.targetsOf_single single, ih]
        simp [continuation]
  | @single n m ns ms plain kinds named single _ ih =>
      have same := counts_congr kinds named
      rw [DeleteTarget.targets, DeleteTarget.targets, counted_iff, counted_iff, same,
        DeleteTarget.targetsOf_single single,
        DeleteTarget.targetsOf_single (by rw [← kinds]; exact single)]
      by_cases counted : counts m = true
      · have part := not_isContinuation plain kinds named counted
        simp [counted, part, kinds, ih]
      · simp [counted, ih]
  | @group n m ns ms plain kinds named group inner _ ihInner ih =>
      have same := counts_congr kinds named
      rw [DeleteTarget.targets, DeleteTarget.targets, counted_iff, counted_iff, same,
        DeleteTarget.targetsOf_group group,
        DeleteTarget.targetsOf_group (by rw [← kinds]; exact group)]
      by_cases counted : counts m = true
      · simp [counted, ihInner, ih]
      · simp [counted, ih]

end Interspersed

/-! ## What line continuations change -/

namespace Arguments

variable {n m : Node}

theorem fault?_eq_iff (extras : Interspersed n.children m.children) :
    (fault? m).map (·.2) = (fault? n).map (·.2) ↔
      ∀ fault, StopsAt step isContinuation (false, false) m.parts fault →
        (fault? n).map (·.2) = some fault := by
  have plain : (fault? n).map (·.2) =
      firstFault step (false, false) (m.parts.filter fun c => !isContinuation c) := by
    rw [fault?, misplaced?_eq_firstFault (false, false)]
    exact firstFault_congr step_congr extras.parts_kinds (false, false)
  have broken : (fault? m).map (·.2) = firstFault step (false, false) m.parts := by
    rw [fault?, misplaced?_eq_firstFault (false, false)]
  rw [plain, broken]
  refine firstFault_filter_iff ?_ (false, false) m.parts
  intro seen c next continuation taken
  rw [step_continuation continuation] at taken
  split at taken
  · cases taken
  · split at taken
    · cases taken
    · exact (Except.ok.inj taken).symm

theorem seenAmong_fst_iff (l : List Node) :
    (seenAmong l).1 = true ↔ ∃ a ∈ l, a.kind = "keyword_argument" := by
  simp [seenAmong, kindOf_eq_keyword_iff]

theorem seenAmong_snd_iff (l : List Node) :
    (seenAmong l).2 = true ↔ ∃ a ∈ l, a.kind = "dictionary_splat" := by
  simp [seenAmong, kindOf_eq_mapping_iff]

/-- A scan stops at a line continuation behind arguments in order with keywords or mappings. -/
theorem stopsAt_iff {fault : ArgumentFault} :
    StopsAt step isContinuation (false, false) m.parts fault ↔
      ∃ before c rest, m.parts = before ++ c :: rest ∧ c.kind = "line_continuation" ∧
        misplaced? false false before = none ∧
        ((∃ a ∈ before, a.kind = "dictionary_splat") ∧ fault = .positionalAfterMapping ∨
          (¬ ∃ a ∈ before, a.kind = "dictionary_splat") ∧
            (∃ a ∈ before, a.kind = "keyword_argument") ∧ fault = .positionalAfterKeyword) := by
  have stop (before : List Node) {c : Node} (continuation : isContinuation c = true) :
      step (seenAmong before) c = .error fault ↔
        (∃ a ∈ before, a.kind = "dictionary_splat") ∧ fault = .positionalAfterMapping ∨
          (¬ ∃ a ∈ before, a.kind = "dictionary_splat") ∧
            (∃ a ∈ before, a.kind = "keyword_argument") ∧ fault = .positionalAfterKeyword := by
    rw [step_continuation continuation, ← seenAmong_fst_iff, ← seenAmong_snd_iff]
    rcases seenAmong before with ⟨_ | _, _ | _⟩ <;> simp [eq_comm]
  constructor
  · rintro ⟨before, c, rest, reached, split, continuation, passed, stopped⟩
    obtain ⟨fine, rfl⟩ := (foldlM_step_iff _ before reached).mp passed
    simp only [Bool.false_or] at stopped
    exact ⟨before, c, rest, split, of_decide_eq_true continuation, fine,
      (stop before continuation).mp stopped⟩
  · rintro ⟨before, c, rest, split, kind, fine, stopped⟩
    have continuation : isContinuation c = true := decide_eq_true kind
    refine ⟨before, c, rest, seenAmong before, split, continuation, ?_,
      (stop before continuation).mpr stopped⟩
    exact (foldlM_step_iff _ before _).mpr ⟨fine, by simp⟩

end Arguments

namespace DeleteTarget

variable {n m : Node}

theorem fault?_eq_firstFault (n : Node) :
    (fault? n).map (·.2) = firstFault step () (targets n.children) := by
  rw [fault?, invalidIn?_eq_findSome?, findSome?_eq_firstFault]

theorem fault?_eq_iff (extras : Interspersed n.children m.children) :
    (fault? m).map (·.2) = (fault? n).map (·.2) ↔
      ∀ fault, StopsAt step isContinuation () (targets m.children) fault →
        (fault? n).map (·.2) = some fault := by
  have plain : (fault? n).map (·.2) =
      firstFault step () ((targets m.children).filter fun c => !isContinuation c) := by
    rw [fault?_eq_firstFault]
    exact firstFault_congr step_congr extras.targets_kinds ()
  rw [plain, fault?_eq_firstFault]
  exact firstFault_filter_iff (fun _ _ _ _ _ => rfl) () (targets m.children)

/-- A scan stops at a line continuation behind targets that can be deleted. -/
theorem stopsAt_iff {fault : Undeletable} :
    StopsAt step isContinuation () (targets m.children) fault ↔
      (∃ before c rest, targets m.children = before ++ c :: rest ∧
        c.kind = "line_continuation" ∧ ∀ t ∈ before, isDeletable t.kind = true) ∧
      fault = .expression := by
  constructor
  · rintro ⟨before, c, rest, reached, split, continuation, passed, stopped⟩
    rw [step_continuation continuation] at stopped
    exact ⟨⟨before, c, rest, split, of_decide_eq_true continuation,
      (foldlM_step_iff before).mp passed⟩, (Except.error.inj stopped).symm⟩
  · rintro ⟨⟨before, c, rest, split, kind, deletable⟩, rfl⟩
    have continuation : isContinuation c = true := decide_eq_true kind
    exact ⟨before, c, rest, (), split, continuation, (foldlM_step_iff before).mpr deletable,
      step_continuation continuation ()⟩

end DeleteTarget

theorem ArgumentFault.message_injective {a b : ArgumentFault} (same : a.message = b.message) :
    a = b := by
  cases a <;> cases b <;> first | rfl | exact absurd same (by decide)

theorem DeleteTarget.Undeletable.message_injective {a b : Undeletable}
    (same : a.message = b.message) : a = b := by
  cases a <;> cases b <;> first | rfl | exact absurd same (by decide)

section Messages

variable {F : Type} {message : F → String}

theorem map_message_eq_iff (injective : ∀ {a b}, message a = message b → a = b)
    (x y : Option (Node × F)) :
    x.map (fun found => message found.2) = y.map (fun found => message found.2) ↔
      x.map (·.2) = y.map (·.2) := by
  rcases x with _ | ⟨_, a⟩ <;> rcases y with _ | ⟨_, b⟩ <;> simp
  exact ⟨injective, congrArg message⟩

theorem map_message_eq_some_iff (injective : ∀ {a b}, message a = message b → a = b)
    (x : Option (Node × F)) (fault : F) :
    x.map (fun found => message found.2) = some (message fault) ↔ x.map (·.2) = some fault := by
  rcases x with _ | ⟨_, a⟩ <;> simp
  exact ⟨injective, congrArg message⟩

end Messages

/-- Let the second of two nodes be the first one with extras in it.  As a call, it gets the same
verdict exactly if each line continuation that comes behind keyword arguments or mappings, with all
arguments before it in order, would only say what the call without extras is faulted for anyway.  As
a `del` statement, it does so exactly if this holds of each line continuation behind targets that
can all be deleted.  Comments never matter. -/
theorem extras_keep_verdict_iff {n m : Node} (extras : Interspersed n.children m.children) :
    ((Arguments.fault? m).map (·.2.message) = (Arguments.fault? n).map (·.2.message) ↔
      ∀ before c rest, m.parts = before ++ c :: rest → c.kind = "line_continuation" →
        Arguments.misplaced? false false before = none →
        (∃ a ∈ before, a.kind = "keyword_argument" ∨ a.kind = "dictionary_splat") →
        (Arguments.fault? n).map (·.2.message) = some
          (if ∃ a ∈ before, a.kind = "dictionary_splat" then
            "positional argument follows keyword argument unpacking"
          else "positional argument follows keyword argument")) ∧
    ((DeleteTarget.fault? m).map (·.2.message) = (DeleteTarget.fault? n).map (·.2.message) ↔
      ∀ before c rest, DeleteTarget.targets m.children = before ++ c :: rest →
        c.kind = "line_continuation" → (∀ t ∈ before, DeleteTarget.isDeletable t.kind = true) →
        (DeleteTarget.fault? n).map (·.2.message) = some "cannot delete expression") := by
  constructor
  · rw [map_message_eq_iff ArgumentFault.message_injective, Arguments.fault?_eq_iff extras]
    constructor
    · intro all before c rest split continuation fine seen
      by_cases mapping : ∃ a ∈ before, a.kind = "dictionary_splat"
      · rw [if_pos mapping]
        exact (map_message_eq_some_iff ArgumentFault.message_injective _ _).mpr
          (all .positionalAfterMapping (Arguments.stopsAt_iff.mpr
            ⟨before, c, rest, split, continuation, fine, .inl ⟨mapping, rfl⟩⟩))
      · rw [if_neg mapping]
        obtain ⟨a, member, keyword | splat⟩ := seen
        · exact (map_message_eq_some_iff ArgumentFault.message_injective _ _).mpr
            (all .positionalAfterKeyword (Arguments.stopsAt_iff.mpr
              ⟨before, c, rest, split, continuation, fine,
                .inr ⟨mapping, ⟨a, member, keyword⟩, rfl⟩⟩))
        · exact (mapping ⟨a, member, splat⟩).elim
    · intro all fault stops
      obtain ⟨before, c, rest, split, continuation, fine, stopped⟩ :=
        Arguments.stopsAt_iff.mp stops
      rw [← map_message_eq_some_iff ArgumentFault.message_injective]
      rcases stopped with ⟨mapping, rfl⟩ | ⟨noMapping, ⟨a, member, keyword⟩, rfl⟩
      · obtain ⟨a, member, splat⟩ := mapping
        have same := all before c rest split continuation fine ⟨a, member, .inr splat⟩
        rwa [if_pos ⟨a, member, splat⟩] at same
      · have same := all before c rest split continuation fine ⟨a, member, .inl keyword⟩
        rwa [if_neg noMapping] at same
  · rw [map_message_eq_iff DeleteTarget.Undeletable.message_injective,
      DeleteTarget.fault?_eq_iff extras]
    have said : (DeleteTarget.fault? n).map (·.2.message) = some "cannot delete expression" ↔
        (DeleteTarget.fault? n).map (·.2) = some .expression :=
      map_message_eq_some_iff DeleteTarget.Undeletable.message_injective _ .expression
    simp only [DeleteTarget.stopsAt_iff, said]
    constructor
    · intro all before c rest split continuation deletable
      exact all .expression ⟨⟨before, c, rest, split, continuation, deletable⟩, rfl⟩
    · rintro all fault ⟨⟨before, c, rest, split, continuation, deletable⟩, rfl⟩
      exact all before c rest split continuation deletable

/-- A node without parts. -/
def leaf (kind : String) (named : Bool) (start stop : Place) : Node :=
  { kind, named, start, stop, children := [] }

/-- The arguments in `f(a, b=2)`. -/
def mixedCall : Node where
  kind := "argument_list"
  named := true
  start := ⟨1, 0, 1⟩
  stop := ⟨9, 0, 9⟩
  children := [
    leaf "(" false ⟨1, 0, 1⟩ ⟨2, 0, 2⟩,
    leaf "identifier" true ⟨2, 0, 2⟩ ⟨3, 0, 3⟩,
    leaf "," false ⟨3, 0, 3⟩ ⟨4, 0, 4⟩,
    leaf "keyword_argument" true ⟨5, 0, 5⟩ ⟨8, 0, 8⟩,
    leaf ")" false ⟨8, 0, 8⟩ ⟨9, 0, 9⟩]

/-- The same with a line continuation behind the parenthesis. -/
def brokenMixedCall : Node where
  kind := "argument_list"
  named := true
  start := ⟨1, 0, 1⟩
  stop := ⟨11, 1, 7⟩
  children := [
    leaf "(" false ⟨1, 0, 1⟩ ⟨2, 0, 2⟩,
    leaf "line_continuation" true ⟨2, 0, 2⟩ ⟨4, 1, 0⟩,
    leaf "identifier" true ⟨4, 1, 0⟩ ⟨5, 1, 1⟩,
    leaf "," false ⟨5, 1, 1⟩ ⟨6, 1, 2⟩,
    leaf "keyword_argument" true ⟨7, 1, 3⟩ ⟨10, 1, 6⟩,
    leaf ")" false ⟨10, 1, 6⟩ ⟨11, 1, 7⟩]

/-- Before the first argument, a line continuation does no harm. -/
theorem mixedCall_keeps_verdict :
    Interspersed mixedCall.children brokenMixedCall.children ∧
      (Arguments.fault? brokenMixedCall).map (·.2.message) =
        (Arguments.fault? mixedCall).map (·.2.message) := by
  have extras : Interspersed mixedCall.children brokenMixedCall.children :=
    .single rfl rfl rfl rfl <| .extra rfl <| .single rfl rfl rfl rfl <| .single rfl rfl rfl rfl <|
      .single rfl rfl rfl rfl <| .single rfl rfl rfl rfl .nil
  refine ⟨extras, (extras_keep_verdict_iff extras).1.mpr ?_⟩
  intro before c rest split continuation fine seen
  cases before with
  | nil => exact absurd seen (by simp)
  | cons first before =>
      have later : c ∈ brokenMixedCall.parts.tail := by
        rw [split]
        simp
      have kinds : ∀ a ∈ brokenMixedCall.parts.tail, a.kind ≠ "line_continuation" := by decide
      exact (kinds c later continuation).elim

/-- The arguments in `f(a=1, b=2)`. -/
def keywordCall : Node where
  kind := "argument_list"
  named := true
  start := ⟨1, 0, 1⟩
  stop := ⟨11, 0, 11⟩
  children := [
    leaf "(" false ⟨1, 0, 1⟩ ⟨2, 0, 2⟩,
    leaf "keyword_argument" true ⟨2, 0, 2⟩ ⟨5, 0, 5⟩,
    leaf "," false ⟨5, 0, 5⟩ ⟨6, 0, 6⟩,
    leaf "keyword_argument" true ⟨7, 0, 7⟩ ⟨10, 0, 10⟩,
    leaf ")" false ⟨10, 0, 10⟩ ⟨11, 0, 11⟩]

/-- The same with a line continuation behind the comma. -/
def brokenKeywordCall : Node where
  kind := "argument_list"
  named := true
  start := ⟨1, 0, 1⟩
  stop := ⟨15, 1, 6⟩
  children := [
    leaf "(" false ⟨1, 0, 1⟩ ⟨2, 0, 2⟩,
    leaf "keyword_argument" true ⟨2, 0, 2⟩ ⟨5, 0, 5⟩,
    leaf "," false ⟨5, 0, 5⟩ ⟨6, 0, 6⟩,
    leaf "line_continuation" true ⟨7, 0, 7⟩ ⟨9, 1, 0⟩,
    leaf "keyword_argument" true ⟨11, 1, 2⟩ ⟨14, 1, 5⟩,
    leaf ")" false ⟨14, 1, 5⟩ ⟨15, 1, 6⟩]

/-- Behind a keyword argument, a line continuation gets a call rejected that is in order. -/
theorem line_continuation_changes_verdict :
    Interspersed keywordCall.children brokenKeywordCall.children ∧
      Arguments.fault? keywordCall = none ∧
      (Arguments.fault? brokenKeywordCall).map (·.2.message) =
        some "positional argument follows keyword argument" := by
  refine ⟨?_, rfl, rfl⟩
  exact .single rfl rfl rfl rfl <| .single rfl rfl rfl rfl <| .single rfl rfl rfl rfl <|
    .extra rfl <| .single rfl rfl rfl rfl <| .single rfl rfl rfl rfl .nil

end Checkup.Syntax
