import Checkup.Syntax.Rule.Indentation

/-!
# Two widths, one stack

`Levels.step` keeps one stack of levels for both widths and looks for a level by the wide one only.
`Stack.line?` is the ordinary tokenizer on a single width: it has a stack of its own and says which
tokens a line gives.

* `Levels.step_ok_iff` and `Stack.line?_eq_some_iff` say everything a line can do to either stack.
* `Levels.Nested` is the invariant: the outermost level is at the left margin, and inner levels are
  wider in both widths.  `Levels.exists_tokens_of_step` and `Levels.exists_step_of_tokens` relate
  one line.
* `replay_ok_iff_same_tokens` relates whole runs: the levels take in exactly the lines on which the
  two tokenizers agree.
-/

namespace Checkup.Syntax.Indentation

/-! ## The tokenizer on one width -/

/-- What a parser is told about the indentation of a line. -/
inductive Token where
  | indent
  | dedent
deriving BEq, DecidableEq, Inhabited

/-- Open levels in one width, the innermost first. -/
abbrev Stack := List Nat

namespace Stack

def start : Stack := [0]

/-- Pops the levels that are wider, with a token for each. -/
def pop (width : Nat) : Stack → Stack × List Token
  | [] => ([], [])
  | top :: rest =>
    if width < top then ((pop width rest).1, .dedent :: (pop width rest).2) else (top :: rest, [])

/-- Takes in a line: the levels behind it and its tokens, unless it goes back to no open level. -/
def line? (stack : Stack) (width : Nat) : Option (Stack × List Token) :=
  match stack with
  | [] => none
  | top :: rest =>
    if width = top then some (top :: rest, [])
    else if top < width then some (width :: top :: rest, [.indent])
    else
      let (popped, tokens) := pop width (top :: rest)
      if popped.head? = some width then some (popped, tokens) else none

/-- Takes in lines: the levels behind them and the tokens of each. -/
def run? (stack : Stack) : List Nat → Option (Stack × List (List Token))
  | [] => some (stack, [])
  | width :: widths =>
    match stack.line? width with
    | none => none
    | some (stack, tokens) => (run? stack widths).map fun (stack, later) => (stack, tokens :: later)

theorem run?_cons_eq_some {stack last : Stack} {width : Nat} {widths : List Nat}
    {tokens : List (List Token)} (run : stack.run? (width :: widths) = some (last, tokens)) :
    ∃ next first later, stack.line? width = some (next, first) ∧
      next.run? widths = some (last, later) ∧ tokens = first :: later := by
  rw [run?] at run
  cases line : stack.line? width with
  | none => rw [line] at run; cases run
  | some taken =>
      rw [line] at run
      obtain ⟨⟨_, later⟩, rest, same⟩ := Option.map_eq_some_iff.mp run
      cases same
      exact ⟨taken.1, taken.2, later, rfl, rest, rfl⟩

/-- Popping splits the stack at the first level that is not wider. -/
theorem pop_append {width : Nat} {closed : Stack} (wider : ∀ level ∈ closed, width < level)
    {level : Nat} (fits : ¬ width < level) (outer : Stack) :
    pop width (closed ++ level :: outer) =
      (level :: outer, List.replicate closed.length .dedent) := by
  induction closed with
  | nil => simp [pop, fits]
  | cons top closed ih =>
      have rest := ih fun level member => wider level (List.mem_cons_of_mem _ member)
      simp [pop, wider top List.mem_cons_self, rest, List.replicate_succ]

/-- A line that closes levels has to go back to one that is open. -/
theorem line?_of_closed {width : Nat} {closed : Stack} (wider : ∀ level ∈ closed, width < level)
    {level : Nat} (fits : ¬ width < level) (outer : Stack) (some_closed : closed ≠ []) :
    line? (closed ++ level :: outer) width =
      if level = width then some (level :: outer, List.replicate closed.length .dedent)
      else none := by
  cases closed with
  | nil => exact (some_closed rfl).elim
  | cons top closed =>
      have top_wider := wider top List.mem_cons_self
      have popped := pop_append wider fits outer
      rw [List.cons_append] at popped ⊢
      simp only [line?, popped, if_neg (show ¬ width = top by omega),
        if_neg (show ¬ top < width by omega), List.head?_cons, Option.some.injEq]

/-- A stack whose outermost level is at the margin splits at every width. -/
theorem exists_split {stack : Stack} (margin : stack.getLast? = some 0) (width : Nat) :
    ∃ closed level outer, stack = closed ++ level :: outer ∧
      (∀ level ∈ closed, width < level) ∧ ¬ width < level := by
  obtain ⟨inner, rfl⟩ := List.getLast?_eq_some_iff.mp margin
  induction inner with
  | nil => exact ⟨[], 0, [], rfl, by simp, by omega⟩
  | cons top inner ih =>
      by_cases wider : width < top
      · obtain ⟨closed, level, outer, split, all, fits⟩ := ih (by simp)
        refine ⟨top :: closed, level, outer, by rw [List.cons_append, split]; rfl, ?_, fits⟩
        intro other member
        rcases List.mem_cons.mp member with rfl | member
        · exact wider
        · exact all other member
      · exact ⟨[], top, inner ++ [0], rfl, by simp, wider⟩

/-- Everything that a line can do: stay on the level, open one, or go back to an open one. -/
theorem line?_eq_some_iff {stack : Stack} (margin : stack.getLast? = some 0) {width : Nat}
    {next : Stack} {tokens : List Token} :
    stack.line? width = some (next, tokens) ↔
      (stack.head? = some width ∧ next = stack ∧ tokens = []) ∨
      ((∃ top, stack.head? = some top ∧ top < width) ∧ next = width :: stack ∧
        tokens = [.indent]) ∨
      (∃ closed outer, closed ≠ [] ∧ stack = closed ++ width :: outer ∧
        (∀ level ∈ closed, width < level) ∧ next = width :: outer ∧
        tokens = List.replicate closed.length .dedent) := by
  constructor
  · intro line
    obtain ⟨closed, level, outer, rfl, wider, fits⟩ := exists_split margin width
    cases closed with
    | nil =>
        simp only [List.nil_append, line?] at line
        split at line
        case isTrue same =>
          cases line
          exact .inl ⟨by rw [same]; rfl, rfl, rfl⟩
        case isFalse other =>
          rw [if_pos (by omega)] at line
          cases line
          exact .inr (.inl ⟨⟨level, rfl, by omega⟩, rfl, rfl⟩)
    | cons top closed =>
        rw [line?_of_closed wider fits outer (List.cons_ne_nil _ _)] at line
        split at line
        case isTrue same =>
          subst same
          cases line
          exact .inr (.inr ⟨top :: closed, outer, List.cons_ne_nil _ _, rfl, wider, rfl, rfl⟩)
        case isFalse other => cases line
  · rintro (⟨same, rfl, rfl⟩ | ⟨⟨top, same, wider⟩, rfl, rfl⟩ |
      ⟨closed, outer, some_closed, rfl, wider, rfl, rfl⟩)
    · obtain ⟨rest, rfl⟩ := List.head?_eq_some_iff.mp same
      simp [line?]
    · obtain ⟨rest, rfl⟩ := List.head?_eq_some_iff.mp same
      simp [line?, wider, show ¬ width = top by omega]
    · rw [line?_of_closed wider (by omega) outer some_closed, if_pos rfl]

variable {stack next : Stack} {width : Nat}

/-- A line without tokens stays on the level. -/
theorem head?_of_no_tokens (margin : stack.getLast? = some 0)
    (line : stack.line? width = some (next, [])) : stack.head? = some width := by
  rcases (line?_eq_some_iff margin).mp line with ⟨same, _⟩ | ⟨_, _, tokens⟩ |
    ⟨closed, _, some_closed, _, _, _, tokens⟩
  · exact same
  · cases tokens
  · cases closed with
    | nil => exact (some_closed rfl).elim
    | cons top closed => cases tokens

/-- A line with an indent is wider than the level. -/
theorem head?_of_indent (margin : stack.getLast? = some 0)
    (line : stack.line? width = some (next, [.indent])) :
    ∃ top, stack.head? = some top ∧ top < width := by
  rcases (line?_eq_some_iff margin).mp line with ⟨_, _, tokens⟩ | ⟨top, _⟩ |
    ⟨closed, _, some_closed, _, _, _, tokens⟩
  · cases tokens
  · exact top
  · cases closed with
    | nil => exact (some_closed rfl).elim
    | cons top closed => cases tokens

/-- A line with dedents goes back by as many levels. -/
theorem split_of_dedents (margin : stack.getLast? = some 0) {count : Nat} (positive : 0 < count)
    (line : stack.line? width = some (next, List.replicate count .dedent)) :
    ∃ closed outer, stack = closed ++ width :: outer ∧ closed.length = count := by
  obtain ⟨count, rfl⟩ := Nat.exists_eq_add_one.mpr positive
  rcases (line?_eq_some_iff margin).mp line with ⟨_, _, tokens⟩ | ⟨_, _, tokens⟩ |
    ⟨closed, outer, _, split, _, _, tokens⟩
  · cases tokens
  · cases tokens
  · refine ⟨closed, outer, split, ?_⟩
    simpa using (congrArg List.length tokens).symm

end Stack

/-! ## The levels of both widths -/

theorem Width.eq_of_sides {v w : Width} (wide : v.wide = w.wide) (narrow : v.narrow = w.narrow) :
    v = w := by
  cases v
  cases w
  cases wide
  cases narrow
  rfl

namespace Levels

/-- The outermost level is at the margin, and inner levels are wider in both widths. -/
structure Nested (levels : Levels) : Prop where
  margin : levels.getLast? = some ⟨0, 0⟩
  wider : levels.Pairwise fun inner outer =>
    outer.wide < inner.wide ∧ outer.narrow < inner.narrow

theorem nested_start : Nested start where
  margin := rfl
  wider := List.pairwise_singleton _ _

/-- Closing splits the levels at the first one that is not wider. -/
theorem close_append {wide : Nat} {closed : Levels} (wider : ∀ level ∈ closed, wide < level.wide)
    {level : Width} (fits : ¬ wide < level.wide) (outer : Levels) :
    close wide (closed ++ level :: outer) = level :: outer := by
  induction closed with
  | nil => cases outer <;> simp [close, fits]
  | cons top closed ih =>
      have rest := ih fun level member => wider level (List.mem_cons_of_mem _ member)
      have popped : close wide (top :: (closed ++ level :: outer)) =
          close wide (closed ++ level :: outer) := by
        cases closed <;> simp [close, wider top List.mem_cons_self]
      exact popped.trans rest

variable {levels : Levels}

namespace Nested

theorem margin_wide (nested : levels.Nested) : (levels.map Width.wide).getLast? = some 0 := by
  rw [List.getLast?_map, nested.margin]
  rfl

theorem margin_narrow (nested : levels.Nested) :
    (levels.map Width.narrow).getLast? = some 0 := by
  rw [List.getLast?_map, nested.margin]
  rfl

/-- Nested levels split at every width. -/
theorem exists_split (nested : levels.Nested) (wide : Nat) :
    ∃ closed level outer, levels = closed ++ level :: outer ∧
      (∀ level ∈ closed, wide < level.wide) ∧ ¬ wide < level.wide := by
  obtain ⟨closed, level, outer, split, wider, fits⟩ := Stack.exists_split nested.margin_wide wide
  obtain ⟨closed, rest, rfl, rfl, restSplit⟩ := List.map_eq_append_iff.mp split
  obtain ⟨level, outer, rfl, rfl, rfl⟩ := List.map_eq_cons_iff.mp restSplit
  exact ⟨closed, level, outer, rfl, by simpa using wider, fits⟩

/-- Levels that are nested stay so when inner ones are closed. -/
theorem of_append {closed : Levels} {level : Width} {outer : Levels}
    (nested : Nested (closed ++ level :: outer)) : Nested (level :: outer) where
  margin := by rw [← nested.margin, List.getLast?_append]; rfl
  wider := (List.pairwise_append.mp nested.wider).2.1

/-- Inner levels are wider than an outer one, by either width. -/
theorem wider_of_append {closed : Levels} {level : Width} {outer : Levels}
    (nested : Nested (closed ++ level :: outer)) {other : Width} (member : other ∈ closed) :
    level.wide < other.wide ∧ level.narrow < other.narrow :=
  (List.pairwise_append.mp nested.wider).2.2 other member level List.mem_cons_self

end Nested

/-- What a line does to levels that split at its wide width. -/
theorem step_append {w : Width} {closed : Levels} (wider : ∀ level ∈ closed, w.wide < level.wide)
    {level : Width} (fits : ¬ w.wide < level.wide) (outer : Levels) :
    step (closed ++ level :: outer) w =
      if w.wide = level.wide then
        if w.narrow = level.narrow then .ok (level :: outer) else .error .inconsistentTabs
      else if closed = [] then
        if w.narrow ≤ level.narrow then .error .inconsistentTabs else .ok (w :: level :: outer)
      else .error .unknownLevel := by
  cases closed with
  | nil =>
      by_cases same : w.wide = level.wide
      · simp [step, same]
      · simp [step, same, show level.wide < w.wide by omega]
  | cons top closed =>
      have top_wider := wider top List.mem_cons_self
      have closing := close_append wider fits outer
      rw [List.cons_append] at closing ⊢
      simp [step, closing, show ¬ w.wide = top.wide by omega,
        show ¬ top.wide < w.wide by omega]

/-- Everything that a line can do: stay on the level, open one, or go back to an open one. -/
theorem step_ok_iff (nested : levels.Nested) {w : Width} {next : Levels} :
    levels.step w = .ok next ↔
      (levels.head? = some w ∧ next = levels) ∨
      ((∃ top, levels.head? = some top ∧ top.wide < w.wide ∧ top.narrow < w.narrow) ∧
        next = w :: levels) ∨
      (∃ closed outer, closed ≠ [] ∧ levels = closed ++ w :: outer ∧ next = w :: outer) := by
  constructor
  · intro step
    obtain ⟨closed, level, outer, rfl, wider, fits⟩ := nested.exists_split w.wide
    rw [step_append wider fits outer] at step
    split at step
    case isTrue same =>
      split at step
      case isFalse other => cases step
      case isTrue sameNarrow =>
        cases step
        cases Width.eq_of_sides same sameNarrow
        cases closed with
        | nil => exact .inl ⟨rfl, rfl⟩
        | cons top closed =>
            exact .inr (.inr ⟨top :: closed, outer, List.cons_ne_nil _ _, rfl, rfl⟩)
    case isFalse other =>
      split at step
      case isFalse some_closed => cases step
      case isTrue none_closed =>
        subst none_closed
        split at step
        case isTrue narrow => cases step
        case isFalse narrow =>
          cases step
          exact .inr (.inl ⟨⟨level, rfl, by omega, by omega⟩, rfl⟩)
  · rintro (⟨same, rfl⟩ | ⟨⟨top, same, wider, narrow⟩, rfl⟩ |
      ⟨closed, outer, some_closed, rfl, rfl⟩)
    · obtain ⟨rest, rfl⟩ := List.head?_eq_some_iff.mp same
      simp [step]
    · obtain ⟨rest, rfl⟩ := List.head?_eq_some_iff.mp same
      have none_closed : ∀ level ∈ ([] : Levels), w.wide < level.wide := by simp
      have step := step_append none_closed (by omega : ¬ w.wide < top.wide) rest
      simpa [show ¬ w.wide = top.wide by omega, show ¬ w.narrow ≤ top.narrow by omega] using step
    · have step := step_append (fun level member => (nested.wider_of_append member).1)
        (Nat.lt_irrefl _) outer
      simpa using step

/-- A fitting line leaves the levels nested. -/
theorem Nested.of_step (nested : levels.Nested) {w : Width} {next : Levels}
    (step : levels.step w = .ok next) : next.Nested := by
  rcases (step_ok_iff nested).mp step with ⟨_, rfl⟩ | ⟨⟨top, same, wide, narrow⟩, rfl⟩ |
    ⟨closed, outer, _, rfl, rfl⟩
  · exact nested
  · obtain ⟨rest, rfl⟩ := List.head?_eq_some_iff.mp same
    refine ⟨by rw [List.getLast?_cons_cons, nested.margin],
      List.pairwise_cons.mpr ⟨?_, nested.wider⟩⟩
    intro other member
    rcases List.mem_cons.mp member with rfl | member
    · exact ⟨wide, narrow⟩
    · have top_wider := (List.pairwise_cons.mp nested.wider).1 other member
      exact ⟨by omega, by omega⟩
  · exact nested.of_append

/-! ## One line -/

/-- On a fitting line both tokenizers give the same tokens, and keep to the levels. -/
theorem exists_tokens_of_step (nested : levels.Nested) {w : Width} {next : Levels}
    (step : levels.step w = .ok next) :
    ∃ tokens, Stack.line? (levels.map Width.wide) w.wide = some (next.map Width.wide, tokens) ∧
      Stack.line? (levels.map Width.narrow) w.narrow =
        some (next.map Width.narrow, tokens) := by
  rcases (step_ok_iff nested).mp step with ⟨same, rfl⟩ | ⟨⟨top, same, wide, narrow⟩, rfl⟩ |
    ⟨closed, outer, some_closed, rfl, rfl⟩
  · refine ⟨[], (Stack.line?_eq_some_iff nested.margin_wide).mpr (.inl ⟨?_, rfl, rfl⟩),
      (Stack.line?_eq_some_iff nested.margin_narrow).mpr (.inl ⟨?_, rfl, rfl⟩)⟩ <;>
    rw [List.head?_map, same] <;> rfl
  · refine ⟨[.indent],
      (Stack.line?_eq_some_iff nested.margin_wide).mpr (.inr (.inl ⟨⟨_, ?_, wide⟩, rfl, rfl⟩)),
      (Stack.line?_eq_some_iff nested.margin_narrow).mpr
        (.inr (.inl ⟨⟨_, ?_, narrow⟩, rfl, rfl⟩))⟩ <;>
    rw [List.head?_map, same] <;> rfl
  · refine ⟨List.replicate closed.length .dedent,
      (Stack.line?_eq_some_iff nested.margin_wide).mpr (.inr (.inr
        ⟨closed.map Width.wide, outer.map Width.wide, ?_, ?_, ?_, rfl, ?_⟩)),
      (Stack.line?_eq_some_iff nested.margin_narrow).mpr (.inr (.inr
        ⟨closed.map Width.narrow, outer.map Width.narrow, ?_, ?_, ?_, rfl, ?_⟩))⟩
    · simpa using some_closed
    · rw [List.map_append, List.map_cons]
    · simpa using fun level member => (nested.wider_of_append member).1
    · rw [List.length_map]
    · simpa using some_closed
    · rw [List.map_append, List.map_cons]
    · simpa using fun level member => (nested.wider_of_append member).2
    · rw [List.length_map]

/-- Where both tokenizers give the same tokens, the line fits. -/
theorem exists_step_of_tokens (nested : levels.Nested) {w : Width} {wide narrow : Stack}
    {tokens : List Token}
    (wideLine : Stack.line? (levels.map Width.wide) w.wide = some (wide, tokens))
    (narrowLine : Stack.line? (levels.map Width.narrow) w.narrow = some (narrow, tokens)) :
    ∃ next, levels.step w = .ok next := by
  rcases (Stack.line?_eq_some_iff nested.margin_wide).mp wideLine with
    ⟨same, _, rfl⟩ | ⟨⟨top, same, wider⟩, _, rfl⟩ | ⟨closed, outer, some_closed, split, _, _, rfl⟩
  · have sameNarrow := Stack.head?_of_no_tokens nested.margin_narrow narrowLine
    rw [List.head?_map, Option.map_eq_some_iff] at same sameNarrow
    obtain ⟨top, head, wide_eq⟩ := same
    obtain ⟨top', head', narrow_eq⟩ := sameNarrow
    cases head.symm.trans head'
    cases Width.eq_of_sides wide_eq narrow_eq
    exact ⟨levels, (step_ok_iff nested).mpr (.inl ⟨head, rfl⟩)⟩
  · obtain ⟨topNarrow, sameNarrow, narrower⟩ :=
      Stack.head?_of_indent nested.margin_narrow narrowLine
    rw [List.head?_map, Option.map_eq_some_iff] at same sameNarrow
    obtain ⟨top, head, rfl⟩ := same
    obtain ⟨top', head', rfl⟩ := sameNarrow
    cases head.symm.trans head'
    exact ⟨w :: levels, (step_ok_iff nested).mpr (.inr (.inl ⟨⟨top, head, wider, narrower⟩, rfl⟩))⟩
  · obtain ⟨closedNarrow, outerNarrow, splitNarrow, lengths⟩ :=
      Stack.split_of_dedents nested.margin_narrow (List.length_pos_iff.mpr some_closed) narrowLine
    obtain ⟨inner, rest, rfl, rfl, restSplit⟩ := List.map_eq_append_iff.mp split
    obtain ⟨level, outer, rfl, wide_eq, rfl⟩ := List.map_eq_cons_iff.mp restSplit
    rw [List.map_append, List.map_cons] at splitNarrow
    have narrow_eq : level.narrow = w.narrow := by
      have tails := (List.append_inj splitNarrow (by simpa using lengths.symm)).2
      exact (List.cons.inj tails).1
    cases Width.eq_of_sides wide_eq narrow_eq
    exact ⟨w :: outer, (step_ok_iff nested).mpr
      (.inr (.inr ⟨inner, outer, by simpa using some_closed, rfl, rfl⟩))⟩

/-- A line that goes back to no open level is found out by the wide width alone. -/
theorem eq_unknownLevel_iff (nested : levels.Nested) {w : Width} {fault : IndentationFault}
    (rejected : levels.step w = .error fault) :
    fault = .unknownLevel ↔ Stack.line? (levels.map Width.wide) w.wide = none := by
  obtain ⟨closed, level, outer, rfl, wider, fits⟩ := nested.exists_split w.wide
  rw [step_append wider fits outer] at rejected
  rw [List.map_append, List.map_cons]
  cases closed with
  | nil =>
      have known : fault = .inconsistentTabs := by
        simp only [if_pos] at rejected
        split at rejected
        all_goals
          split at rejected
          all_goals cases rejected
          rfl
      rw [known, List.map_nil, List.nil_append, Stack.line?]
      split
      · simp
      · simp [show level.wide < w.wide by omega]
  | cons top closed =>
      rw [Stack.line?_of_closed (by simpa using wider) fits _ (by simp)]
      by_cases same : w.wide = level.wide
      · rw [if_pos same] at rejected
        split at rejected
        · cases rejected
        · cases rejected
          simp [same]
      · rw [if_neg same, if_neg (List.cons_ne_nil _ _)] at rejected
        cases rejected
        simp [Ne.symm same]

/-! ## Whole runs -/

/-- Takes in the widths of lines, one after the other. -/
def replay (levels : Levels) (ws : List Width) : Except IndentationFault Levels :=
  ws.foldlM step levels

theorem replay_cons (levels : Levels) (w : Width) (ws : List Width) :
    levels.replay (w :: ws) =
      match levels.step w with
      | .ok next => next.replay ws
      | .error fault => .error fault := by
  rw [replay, List.foldlM_cons]
  cases levels.step w <;> rfl

/-- Fitting lines leave the levels nested. -/
theorem Nested.of_replay {ws : List Width} : ∀ {levels next : Levels}, levels.Nested →
    levels.replay ws = .ok next → next.Nested := by
  induction ws with
  | nil =>
      intro levels next nested run
      cases run
      exact nested
  | cons w ws ih =>
      intro levels next nested run
      rw [replay_cons] at run
      cases step : levels.step w with
      | error fault => rw [step] at run; cases run
      | ok between =>
          rw [step] at run
          exact ih (nested.of_step step) run

/-- On fitting lines both tokenizers give the same tokens, and keep to the levels. -/
theorem exists_tokens_of_replay {ws : List Width} : ∀ {levels next : Levels}, levels.Nested →
    levels.replay ws = .ok next →
    ∃ tokens, Stack.run? (levels.map Width.wide) (ws.map Width.wide) =
        some (next.map Width.wide, tokens) ∧
      Stack.run? (levels.map Width.narrow) (ws.map Width.narrow) =
        some (next.map Width.narrow, tokens) := by
  induction ws with
  | nil =>
      intro levels next nested run
      cases run
      exact ⟨[], rfl, rfl⟩
  | cons w ws ih =>
      intro levels next nested run
      rw [replay_cons] at run
      cases step : levels.step w with
      | error fault => rw [step] at run; cases run
      | ok between =>
          rw [step] at run
          obtain ⟨tokens, wideLine, narrowLine⟩ := exists_tokens_of_step nested step
          obtain ⟨later, wideRun, narrowRun⟩ := ih (nested.of_step step) run
          refine ⟨tokens :: later, ?_, ?_⟩
          · simp only [List.map_cons, Stack.run?, wideLine, wideRun, Option.map_some]
          · simp only [List.map_cons, Stack.run?, narrowLine, narrowRun, Option.map_some]

/-- Where both tokenizers give the same tokens on all lines, the lines fit. -/
theorem exists_replay_of_tokens {ws : List Width} : ∀ {levels : Levels} {wide narrow : Stack}
    {tokens : List (List Token)}, levels.Nested →
    Stack.run? (levels.map Width.wide) (ws.map Width.wide) = some (wide, tokens) →
    Stack.run? (levels.map Width.narrow) (ws.map Width.narrow) = some (narrow, tokens) →
    ∃ next, levels.replay ws = .ok next := by
  induction ws with
  | nil => exact fun _ _ _ => ⟨_, rfl⟩
  | cons w ws ih =>
      intro levels wide narrow tokens nested wideRun narrowRun
      obtain ⟨wide', first, later, wideLine, wideRest, rfl⟩ := Stack.run?_cons_eq_some wideRun
      obtain ⟨narrow', first', later', narrowLine, narrowRest, same⟩ :=
        Stack.run?_cons_eq_some narrowRun
      obtain ⟨rfl, rfl⟩ := List.cons.inj same
      obtain ⟨next, step⟩ := exists_step_of_tokens nested wideLine narrowLine
      obtain ⟨tokens, wideStep, narrowStep⟩ := exists_tokens_of_step nested step
      cases wideLine.symm.trans wideStep
      cases narrowLine.symm.trans narrowStep
      rw [replay_cons, step]
      exact ih (nested.of_step step) wideRest narrowRest

/-- A run that is rejected is rejected at a first line. -/
theorem exists_first_rejected {ws : List Width} {fault : IndentationFault} :
    ∀ {levels : Levels}, levels.replay ws = .error fault →
      ∃ seen w rest between, ws = seen ++ w :: rest ∧ levels.replay seen = .ok between ∧
        between.step w = .error fault := by
  induction ws with
  | nil => exact fun run => by cases run
  | cons w ws ih =>
      intro levels run
      rw [replay_cons] at run
      cases step : levels.step w with
      | error other =>
          rw [step] at run
          cases run
          exact ⟨[], w, ws, levels, rfl, rfl, step⟩
      | ok next =>
          rw [step] at run
          obtain ⟨seen, w', rest, between, rfl, accepted, rejected⟩ := ih run
          exact ⟨w :: seen, w', rest, between, rfl, by rw [replay_cons, step]; exact accepted,
            rejected⟩

end Levels

open Levels in
/-- The levels take in exactly the lines on which both widths give the same tokens.  At the first
line that does not fit, the fault is an unknown level exactly when the wide width alone has no level
to go back to, and tabs otherwise.  As long as lines fit, the levels stay nested. -/
theorem replay_ok_iff_same_tokens (ws : List Width) :
    ((∃ levels, start.replay ws = .ok levels) ↔
      ∃ wide narrow tokens, Stack.start.run? (ws.map Width.wide) = some (wide, tokens) ∧
        Stack.start.run? (ws.map Width.narrow) = some (narrow, tokens)) ∧
    (∀ fault, start.replay ws = .error fault →
      ∃ seen w rest levels wide tokens, ws = seen ++ w :: rest ∧
        start.replay seen = .ok levels ∧ levels.step w = .error fault ∧
        Stack.start.run? (seen.map Width.wide) = some (wide, tokens) ∧
        fault.message =
          if wide.line? w.wide = none then "unindent does not match any outer indentation level"
          else "inconsistent use of tabs and spaces in indentation") ∧
    ∀ seen levels, seen <+: ws → start.replay seen = .ok levels → levels.Nested := by
  refine ⟨⟨?_, ?_⟩, ?_, ?_⟩
  · rintro ⟨levels, run⟩
    obtain ⟨tokens, wideRun, narrowRun⟩ := exists_tokens_of_replay nested_start run
    exact ⟨_, _, tokens, wideRun, narrowRun⟩
  · rintro ⟨wide, narrow, tokens, wideRun, narrowRun⟩
    exact exists_replay_of_tokens nested_start wideRun narrowRun
  · intro fault run
    obtain ⟨seen, w, rest, levels, split, accepted, rejected⟩ := exists_first_rejected run
    obtain ⟨tokens, wideRun, _⟩ := exists_tokens_of_replay nested_start accepted
    refine ⟨seen, w, rest, levels, _, tokens, split, accepted, rejected, wideRun, ?_⟩
    have unknown := eq_unknownLevel_iff (nested_start.of_replay accepted) rejected
    cases fault with
    | unknownLevel => rw [if_pos (unknown.mp rfl)]; rfl
    | inconsistentTabs =>
        rw [if_neg fun none_open => by cases unknown.mpr none_open]
        rfl
  · intro seen levels _ run
    exact nested_start.of_replay run

/-- A tab, and eight blanks on the next line. -/
example : Levels.start.replay [⟨8, 1⟩, ⟨8, 8⟩] = .error .inconsistentTabs := rfl

end Checkup.Syntax.Indentation
