import Checkup.Proofs.Indentation.Indent
import Checkup.Proofs.Indentation.Replay

/-!
# Consistent indentation as text

A program is indented consistently if its lines open and close levels by the texts of their indents.
The two widths of these are then never at odds.

* `Indents.Takes` is what a consistently indented line may do to the open indents, and `Takes.step`
  relates it to the levels: these are the widths of the open indents.
* `Levels.eq_unknownLevel_of_scaled`: widths in proportion can only miss a level.
* `consistent_indents_accepted` relates whole runs.
-/

namespace Checkup.Syntax.Indentation

/-! ## Levels by their indents -/

/-- The indents of the open levels, the innermost first. -/
abbrev Indents := List (List Char)

namespace Indents

/-- The indents before the first line: only the empty one. -/
def start : Indents := [[]]

/-- What a consistently indented line may do, by its indent: stay on the innermost level, open one
with a longer indent that begins with the innermost one, or close inner levels and go back to an
open one. -/
inductive Takes : Indents → List Char → Indents → Prop
  | stays {indent : List Char} {outer : Indents} : Takes (indent :: outer) indent (indent :: outer)
  | opens {indent more : List Char} {outer : Indents} : more ≠ [] →
    Takes (indent :: outer) (indent ++ more) ((indent ++ more) :: indent :: outer)
  | closes {closed outer : Indents} {indent : List Char} :
    Takes (closed ++ indent :: outer) indent (indent :: outer)

/-- Lines that are indented consistently by spaces and tabs, one after the other. -/
inductive TakesAll : Indents → List (List Char) → Prop
  | nil {indents : Indents} : TakesAll indents []
  | cons {indents next : Indents} {line : List Char} {lines : List (List Char)} :
    IsPlain (indentOf line) → Takes indents (indentOf line) next → TakesAll next lines →
    TakesAll indents (line :: lines)

variable {indents next : Indents}

/-- A consistently indented line fits the levels with the widths of the open indents. -/
theorem Takes.step {indent : List Char} (takes : indents.Takes indent next)
    (plain : IsPlain indent) (nested : Levels.Nested (indents.map measure)) :
    Levels.step (indents.map measure) (measure indent) = .ok (next.map measure) := by
  apply (Levels.step_ok_iff nested).mpr
  cases takes with
  | stays => exact .inl ⟨rfl, rfl⟩
  | opens longer => exact .inr (.inl ⟨⟨_, rfl, measure_wider plain longer⟩, rfl⟩)
  | @closes closed outer =>
      cases closed with
      | nil => exact .inl ⟨rfl, rfl⟩
      | cons top closed =>
          refine .inr (.inr ⟨(top :: closed).map measure, outer.map measure, ?_, ?_, rfl⟩)
          · exact List.cons_ne_nil _ _
          · exact List.map_append

/-- Consistently indented lines fit. -/
theorem TakesAll.exists_replay {lines : List (List Char)} (takes : indents.TakesAll lines)
    (nested : Levels.Nested (indents.map measure)) :
    ∃ levels, Levels.replay (indents.map measure) (lines.map measure) = .ok levels := by
  induction takes with
  | nil => exact ⟨_, rfl⟩
  | cons plain takes _ ih =>
      have step := takes.step plain nested
      rcases ih (nested.of_step step) with ⟨levels, run⟩
      rw [measure_indentOf] at step
      refine ⟨levels, ?_⟩
      rw [List.map_cons, Levels.replay_cons, step]
      exact run

end Indents

/-! ## One kind of blanks -/

/-- The wide width is so many times the narrow one. -/
def Width.IsScaled (k : Nat) (w : Width) : Prop := w.wide = k * w.narrow

/-- A blank by which the widths grow in proportion. -/
structure KeepsScale (blank : Char) (k : Nat) : Prop where
  plain : blank = ' ' ∨ blank = '\t'
  keeps : ∀ w : Width, w.IsScaled k → (measureFrom w [blank]).IsScaled k

theorem keepsScale_space : KeepsScale ' ' 1 := by
  refine ⟨.inl rfl, ?_⟩
  intro w scaled
  rw [measureFrom_space]
  unfold Width.IsScaled at scaled ⊢
  dsimp only
  omega

theorem keepsScale_tab : KeepsScale '\t' tabStop := by
  refine ⟨.inr rfl, ?_⟩
  intro w scaled
  rw [measureFrom_tab]
  unfold Width.IsScaled tabStop at scaled ⊢
  dsimp only
  omega

/-- The widths of an indent of one kind of blanks are in proportion. -/
theorem KeepsScale.measureFrom {blank : Char} {k : Nat} (keeps : KeepsScale blank k)
    {indent : List Char} (uniform : ∀ c ∈ indent, c = blank) {w : Width} (scaled : w.IsScaled k) :
    (measureFrom w indent).IsScaled k := by
  induction indent generalizing w with
  | nil => exact scaled
  | cons c indent ih =>
      have ⟨same, rest⟩ := List.forall_mem_cons.mp uniform
      rw [same, measureFrom_cons keeps.plain]
      exact ih rest (keeps.keeps w scaled)

theorem KeepsScale.measure {blank : Char} {k : Nat} (keeps : KeepsScale blank k)
    {line : List Char} (uniform : ∀ c ∈ indentOf line, c = blank) :
    (measure line).IsScaled k := by
  rw [← measure_indentOf]
  exact keeps.measureFrom uniform rfl

namespace Levels

variable {levels : Levels} {k : Nat}

/-- Levels and a line with widths in proportion: if the line does not fit, it goes back to no open
level. -/
theorem eq_unknownLevel_of_scaled (positive : 0 < k) (nested : levels.Nested)
    (scaled : ∀ level ∈ levels, level.IsScaled k) {w : Width} (line : w.IsScaled k)
    {fault : IndentationFault} (rejected : levels.step w = .error fault) :
    fault = .unknownLevel := by
  rcases nested.exists_split w.wide with ⟨closed, level, outer, rfl, wider, fits⟩
  have level_scaled : level.wide = k * level.narrow := scaled level (by simp)
  unfold Width.IsScaled at line
  rw [step_append wider fits outer] at rejected
  split at rejected
  case isTrue same =>
    have same_narrow : w.narrow = level.narrow := by
      apply Nat.eq_of_mul_eq_mul_left positive
      rw [← line, ← level_scaled, same]
    rw [if_pos same_narrow] at rejected
    cases rejected
  case isFalse other =>
    split at rejected
    case isTrue none_closed =>
      have narrower : level.narrow < w.narrow := by
        apply Nat.lt_of_mul_lt_mul_left (a := k)
        omega
      rw [if_neg (Nat.not_le_of_lt narrower)] at rejected
      cases rejected
    case isFalse => cases rejected; rfl

/-- A fitting line leaves all widths in proportion. -/
theorem scaled_of_step (nested : levels.Nested) (scaled : ∀ level ∈ levels, level.IsScaled k)
    {w : Width} (line : w.IsScaled k) {next : Levels} (fits : levels.step w = .ok next) :
    ∀ level ∈ next, level.IsScaled k := by
  rcases (step_ok_iff nested).mp fits with ⟨_, rfl⟩ | ⟨_, rfl⟩ | ⟨closed, outer, _, rfl, rfl⟩
  · exact scaled
  · exact List.forall_mem_cons.mpr ⟨line, scaled⟩
  · exact (List.forall_mem_append.mp scaled).2

theorem eq_unknownLevel_of_replay (positive : 0 < k) {ws : List Width}
    (lines : ∀ w ∈ ws, w.IsScaled k) {fault : IndentationFault} (nested : levels.Nested)
    (scaled : ∀ level ∈ levels, level.IsScaled k) (rejected : levels.replay ws = .error fault) :
    fault = .unknownLevel := by
  induction ws generalizing levels with
  | nil => cases rejected
  | cons w ws ih =>
      have ⟨line, rest⟩ := List.forall_mem_cons.mp lines
      rw [replay_cons] at rejected
      cases step : levels.step w with
      | error other =>
          rw [step] at rejected
          cases rejected
          exact eq_unknownLevel_of_scaled positive nested scaled line step
      | ok next =>
          rw [step] at rejected
          exact ih rest (nested.of_step step) (scaled_of_step nested scaled line step) rejected

end Levels

/-- Lines that open and close levels by their indents fit, whatever spaces and tabs these are made
of.  If all lines are indented by spaces, or all by tabs, no line is blamed for mixing them: one
that does not fit goes back to no open level. -/
theorem consistent_indents_accepted (lines : List (List Char)) :
    (Indents.start.TakesAll lines →
      ∃ levels, Levels.start.replay (lines.map measure) = .ok levels) ∧
    ∀ blank, blank = ' ' ∨ blank = '\t' → (∀ line ∈ lines, ∀ c ∈ indentOf line, c = blank) →
      Levels.start.replay (lines.map measure) ≠ .error .inconsistentTabs ∧
      ∀ fault, Levels.start.replay (lines.map measure) = .error fault →
        fault.message = "unindent does not match any outer indentation level" := by
  refine ⟨fun takes => takes.exists_replay Levels.nested_start, ?_⟩
  intro blank kind uniform
  have proportion : ∃ k, 0 < k ∧ KeepsScale blank k := by
    rcases kind with rfl | rfl
    · exact ⟨1, by decide, keepsScale_space⟩
    · exact ⟨tabStop, by decide, keepsScale_tab⟩
  rcases proportion with ⟨k, positive, keeps⟩
  have measured : ∀ w ∈ lines.map measure, w.IsScaled k := by
    intro w mem
    rcases List.mem_map.mp mem with ⟨line, inside, rfl⟩
    exact keeps.measure (uniform line inside)
  have unknown (fault : IndentationFault)
      (rejected : Levels.start.replay (lines.map measure) = .error fault) :
      fault = .unknownLevel :=
    Levels.eq_unknownLevel_of_replay positive measured Levels.nested_start
      (List.forall_mem_singleton.mpr (Nat.mul_zero k).symm) rejected
  constructor
  · intro mixed
    cases unknown _ mixed
  · intro fault rejected
    rw [unknown fault rejected]
    rfl

/-- Indents of a space and a tab, and of these twice. -/
def mixedLines : List (List Char) :=
  [['a'], [' ', '\t', 'b'], [' ', '\t', ' ', '\t', 'c'], [' ', '\t', 'd'], ['e']]

/-- A line that goes back half of the way. -/
def halfwayLines : List (List Char) := [['a'], ['\t', '\t', 'b'], ['\t', 'c']]

theorem mixed_and_halfway_judged :
    Indents.start.TakesAll mixedLines ∧
    (∃ levels, Levels.start.replay (mixedLines.map measure) = .ok levels) ∧
    (∀ line ∈ halfwayLines, ∀ c ∈ indentOf line, c = '\t') ∧
    Levels.start.replay (halfwayLines.map measure) = .error .unknownLevel ∧
    IndentationFault.unknownLevel.message =
      "unindent does not match any outer indentation level" := by
  have first : Indents.start.Takes [' ', '\t'] [[' ', '\t'], []] := .opens (List.cons_ne_nil _ _)
  have second : Indents.Takes [[' ', '\t'], []] [' ', '\t', ' ', '\t']
      [[' ', '\t', ' ', '\t'], [' ', '\t'], []] :=
    @Indents.Takes.opens [' ', '\t'] [' ', '\t'] [[]] (List.cons_ne_nil _ _)
  have back : Indents.Takes [[' ', '\t', ' ', '\t'], [' ', '\t'], []] [' ', '\t']
      [[' ', '\t'], []] :=
    @Indents.Takes.closes [[' ', '\t', ' ', '\t']] [[]] [' ', '\t']
  have margin : Indents.Takes [[' ', '\t'], []] [] [[]] :=
    @Indents.Takes.closes [[' ', '\t']] [] []
  have takes : Indents.start.TakesAll mixedLines := by
    refine .cons ?_ .stays <| .cons ?_ first <| .cons ?_ second <| .cons ?_ back <|
      .cons ?_ margin .nil
    all_goals simp [indentOf, IsPlain]
  have tabs : ∀ line ∈ halfwayLines, ∀ c ∈ indentOf line, c = '\t' := by
    simp [halfwayLines, indentOf]
  have rejected : Levels.start.replay (halfwayLines.map measure) = .error .unknownLevel := rfl
  exact ⟨takes, (consistent_indents_accepted mixedLines).1 takes, tabs, rejected,
    ((consistent_indents_accepted halfwayLines).2 '\t' (.inr rfl) tabs).2 _ rejected⟩

end Checkup.Syntax.Indentation
