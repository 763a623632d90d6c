import Checkup.Lint.Runner
import Checkup.Proofs.Steps
import Checkup.Proofs.Text.Utf8
import Mathlib.Data.List.Forall2

/-!
# Both tools or none

The report has the output of both tools, or else says why there is none.

* `Tried.inTurn_of_ok` and `Tried.inTurn_of_error` are the two ways in which a run over any number
  of elements ends; the lemmas on `findAll` and `startAll` are these for tools.
* The lemmas `collect_of_…` go through what can happen to two tools (`course`).  In each of them,
  all lookups come before the first attempt to start a program.
* `SameFaults` relates systems in which the same things go wrong: if something does, what tools
  write makes no difference (`collect_eq_of_sameFaults`).
* `report_all_or_nothing` puts these together with the texts of the report.
-/

namespace Checkup.Lint

/-! ## One after the other -/

namespace Tried

variable {α β : Type} {action : α → Action} {step : α → Except LintFault β}

theorem inTurn_cons_of_ok {a : α} {l : List α} {b : β} (done : step a = .ok b) :
    inTurn action step (a :: l) =
      { actions := action a :: (inTurn action step l).actions
        result := (inTurn action step l).result.map (b :: ·) } := by
  rw [inTurn, done]

theorem inTurn_of_ok {l : List α} {bs : List β}
    (done : List.Forall₂ (fun a b => step a = .ok b) l bs) :
    inTurn action step l = { actions := l.map action, result := .ok bs } := by
  induction done with
  | nil => rfl
  | cons here _ ih =>
      rw [inTurn_cons_of_ok here, ih]
      rfl

/-- The first step that fails is the last one taken. -/
theorem inTurn_of_error {before : List α} {a : α} {after : List α} {fault : LintFault}
    (passed : ∀ b ∈ before, ∃ c, step b = .ok c) (failed : step a = .error fault) :
    inTurn action step (before ++ a :: after) =
      { actions := (before ++ [a]).map action, result := .error fault } := by
  induction before with
  | nil => rw [List.nil_append, inTurn, failed, List.nil_append, List.map_singleton]
  | cons b before ih =>
      obtain ⟨⟨c, here⟩, later⟩ := List.forall_mem_cons.mp passed
      rw [List.cons_append, inTurn_cons_of_ok here, ih later]
      rfl

end Tried

section Tools

variable {programs : Programs} {tool : Tool} {tools : List Tool}

theorem find_of_ok {program : Program} (found : programs tool.program = .ok program) :
    find programs tool = .ok program := by
  rw [find, found]
  rfl

theorem find_of_error {reason : String} (missing : programs tool.program = .error reason) :
    find programs tool = .error (.toolNotFound tool.program reason) := by
  rw [find, missing]
  rfl

theorem findAll_of_found {found : List (Tool × Program)}
    (all : List.Forall₂ (fun tool f => f.1 = tool ∧ programs tool.program = .ok f.2)
      tools found) :
    findAll programs tools =
      { actions := tools.map (.lookup ·.program), result := .ok found } := by
  apply Tried.inTurn_of_ok
  refine all.imp ?_
  intro tool f h
  rcases h with ⟨rfl, there⟩
  rw [find_of_ok there]
  rfl

theorem findAll_of_missing (before : List Tool) {after : List Tool} {reason : String}
    (found : ∀ t ∈ before, ∃ p, programs t.program = .ok p)
    (missing : programs tool.program = .error reason) :
    findAll programs (before ++ tool :: after) =
      { actions := (before ++ [tool]).map (.lookup ·.program)
        result := .error (.toolNotFound tool.program reason) } := by
  apply Tried.inTurn_of_error
  · intro t member
    obtain ⟨p, there⟩ := found t member
    rw [find_of_ok there]
    exact ⟨(t, p), rfl⟩
  · rw [find_of_error missing]
    rfl

end Tools

section Programs

variable {path : String} {tool : Tool} {program : Program}

theorem start_of_ok {e : Ending} (started : program [path] = .ok e) :
    start tool program path = .ok (.ofEnding tool.label e) := by
  rw [start, started]

theorem start_of_error {why : StartFault} (failed : program [path] = .error why) :
    start tool program path = .error (.ofStart tool.program why) := by
  rw [start, failed]

theorem startAll_of_started {found : List (Tool × Program)} {outputs : List Output}
    (all : List.Forall₂ (fun f o => ∃ e, f.2 [path] = .ok e ∧ o = .ofEnding f.1.label e)
      found outputs) :
    startAll path found =
      { actions := found.map (.launch <| ·.1.launch path), result := .ok outputs } := by
  apply Tried.inTurn_of_ok
  refine all.imp ?_
  intro f o h
  rcases h with ⟨e, started, rfl⟩
  exact start_of_ok started

theorem startAll_of_failed (before : List (Tool × Program)) {after : List (Tool × Program)}
    {why : StartFault} (started : ∀ f ∈ before, ∃ e, f.2 [path] = .ok e)
    (failed : program [path] = .error why) :
    startAll path (before ++ (tool, program) :: after) =
      { actions := (before ++ [(tool, program)]).map (.launch <| ·.1.launch path)
        result := .error (.ofStart tool.program why) } := by
  apply Tried.inTurn_of_error
  · intro f member
    obtain ⟨e, ok⟩ := started f member
    exact ⟨_, start_of_ok ok⟩
  · exact start_of_error failed

end Programs

/-! ## Two tools -/

namespace Runner

section Cases

variable {r : Runner} {programs : Programs} {path : String} {p q : Program}

theorem collect_of_missing_first {reason : String}
    (missing : programs r.first.program = .error reason) :
    r.collect programs path =
      { actions := [.lookup r.first.program]
        result := .error (.toolNotFound r.first.program reason) } := by
  have looked : findAll programs r.tools = _ :=
    findAll_of_missing [] (List.forall_mem_nil _) missing
  rw [collect, looked]
  rfl

theorem collect_of_missing_second {reason : String} (found : programs r.first.program = .ok p)
    (missing : programs r.second.program = .error reason) :
    r.collect programs path =
      { actions := [.lookup r.first.program, .lookup r.second.program]
        result := .error (.toolNotFound r.second.program reason) } := by
  have looked : findAll programs r.tools = _ :=
    findAll_of_missing [r.first] (List.forall_mem_singleton.mpr ⟨p, found⟩) missing
  rw [collect, looked]
  rfl

/-- If both programs are found, they are started behind the lookups. -/
theorem collect_of_found (found : programs r.first.program = .ok p)
    (found' : programs r.second.program = .ok q) :
    r.collect programs path =
      { actions := [.lookup r.first.program, .lookup r.second.program] ++
          (startAll path [(r.first, p), (r.second, q)]).actions
        result := (startAll path [(r.first, p), (r.second, q)]).result } := by
  have looked : findAll programs r.tools =
      { actions := _, result := .ok [(r.first, p), (r.second, q)] } :=
    findAll_of_found (.cons ⟨rfl, found⟩ (.cons ⟨rfl, found'⟩ .nil))
  rw [collect, looked]
  rfl

theorem collect_of_failed_first {why : StartFault} (found : programs r.first.program = .ok p)
    (found' : programs r.second.program = .ok q) (failed : p [path] = .error why) :
    r.collect programs path =
      { actions := [.lookup r.first.program, .lookup r.second.program,
          .launch (r.first.launch path)]
        result := .error (.ofStart r.first.program why) } := by
  have stopped : startAll path [(r.first, p), (r.second, q)] = _ :=
    startAll_of_failed [] (List.forall_mem_nil _) failed
  rw [collect_of_found found found', stopped]
  rfl

theorem collect_of_failed_second {e : Ending} {why : StartFault}
    (found : programs r.first.program = .ok p) (found' : programs r.second.program = .ok q)
    (started : p [path] = .ok e) (failed : q [path] = .error why) :
    r.collect programs path =
      { actions := [.lookup r.first.program, .lookup r.second.program,
          .launch (r.first.launch path), .launch (r.second.launch path)]
        result := .error (.ofStart r.second.program why) } := by
  have stopped : startAll path [(r.first, p), (r.second, q)] = _ :=
    startAll_of_failed [(r.first, p)] (List.forall_mem_singleton.mpr ⟨e, started⟩) failed
  rw [collect_of_found found found', stopped]
  rfl

theorem collect_of_started {e e' : Ending}
    (found : programs r.first.program = .ok p) (found' : programs r.second.program = .ok q)
    (started : p [path] = .ok e) (started' : q [path] = .ok e') :
    r.collect programs path =
      { actions := [.lookup r.first.program, .lookup r.second.program,
          .launch (r.first.launch path), .launch (r.second.launch path)]
        result := .ok [.ofEnding r.first.label e, .ofEnding r.second.label e'] } := by
  have done : startAll path [(r.first, p), (r.second, q)] = _ :=
    startAll_of_started (.cons ⟨e, started, rfl⟩ (.cons ⟨e', started', rfl⟩ .nil))
  rw [collect_of_found found found', done]
  rfl

/-- What can happen to two tools: one is not found, or one does not start, or both start. -/
theorem course (r : Runner) (programs : Programs) (path : String) :
    (∃ reason, programs r.first.program = .error reason) ∨
      (∃ p reason, programs r.first.program = .ok p ∧
        programs r.second.program = .error reason) ∨
      ∃ p q, programs r.first.program = .ok p ∧ programs r.second.program = .ok q ∧
        ((∃ why, p [path] = .error why) ∨
          (∃ e why, p [path] = .ok e ∧ q [path] = .error why) ∨
          ∃ e e', p [path] = .ok e ∧ q [path] = .ok e') := by
  rcases programs r.first.program with reason | p
  · exact .inl ⟨reason, rfl⟩
  rcases programs r.second.program with reason | q
  · exact .inr (.inl ⟨p, reason, rfl, rfl⟩)
  refine .inr (.inr ⟨p, q, rfl, rfl, ?_⟩)
  rcases p [path] with why | e
  · exact .inl ⟨why, rfl⟩
  rcases q [path] with why | e'
  · exact .inr (.inl ⟨e, why, rfl, rfl⟩)
  · exact .inr (.inr ⟨e, e', rfl, rfl⟩)

/-- Outputs are collected exactly if both programs are found and both start. -/
theorem exists_outputs_iff :
    (∃ outputs, (r.collect programs path).result = .ok outputs) ↔
      ∃ p q e e', programs r.first.program = .ok p ∧ programs r.second.program = .ok q ∧
        p [path] = .ok e ∧ q [path] = .ok e' := by
  constructor
  · intro h
    rcases h with ⟨outputs, collected⟩
    rcases course r programs path with ⟨reason, missing⟩ | ⟨p, reason, found, missing⟩ |
      ⟨p, q, found, found', ⟨why, failed⟩ | ⟨e, why, started, failed⟩ | ⟨e, e', started, started'⟩⟩
    · rw [collect_of_missing_first missing] at collected
      cases collected
    · rw [collect_of_missing_second found missing] at collected
      cases collected
    · rw [collect_of_failed_first found found' failed] at collected
      cases collected
    · rw [collect_of_failed_second found found' started failed] at collected
      cases collected
    · exact ⟨p, q, e, e', found, found', started, started'⟩
  · intro h
    rcases h with ⟨p, q, e, e', found, found', started, started'⟩
    exact ⟨_, congrArg Tried.result (collect_of_started found found' started started')⟩

end Cases

/-! ## What goes wrong -/

/-- The same things go wrong in two systems.  What programs write and how they end may differ. -/
structure SameFaults (programs programs' : Programs) : Prop where
  lookup : ∀ name reason, programs name = .error reason ↔ programs' name = .error reason
  launch : ∀ name p p', programs name = .ok p → programs' name = .ok p' →
    ∀ arguments why, p arguments = .error why ↔ p' arguments = .error why

/-- If something goes wrong, what a tool wrote makes no difference. -/
theorem collect_eq_of_sameFaults {r : Runner} {programs programs' : Programs} {path : String}
    {fault : LintFault} (same : SameFaults programs programs')
    (faulty : (r.collect programs path).result = .error fault) :
    r.collect programs' path = r.collect programs path := by
  have exists_found {name : String} {p : Program} (found : programs name = .ok p) :
      ∃ p', programs' name = .ok p' :=
    exists_ok_of_same_errors (same.lookup name) found
  rcases course r programs path with ⟨reason, missing⟩ | ⟨p, reason, found, missing⟩ |
    ⟨p, q, found, found', starts⟩
  · rw [collect_of_missing_first missing,
      collect_of_missing_first ((same.lookup _ _).mp missing)]
  · obtain ⟨p', foundToo⟩ := exists_found found
    rw [collect_of_missing_second found missing,
      collect_of_missing_second foundToo ((same.lookup _ _).mp missing)]
  obtain ⟨p', foundToo⟩ := exists_found found
  obtain ⟨q', foundToo'⟩ := exists_found found'
  have first := same.launch _ p p' found foundToo
  have second := same.launch _ q q' found' foundToo'
  rcases starts with ⟨why, failed⟩ | ⟨e, why, started, failed⟩ | ⟨e, e', started, started'⟩
  · rw [collect_of_failed_first found found' failed,
      collect_of_failed_first foundToo foundToo' ((first _ _).mp failed)]
  · obtain ⟨e', startedToo⟩ := exists_ok_of_same_errors (first _) started
    rw [collect_of_failed_second found found' started failed,
      collect_of_failed_second foundToo foundToo' startedToo ((second _ _).mp failed)]
  · rw [collect_of_started found found' started started'] at faulty
    cases faulty

end Runner

/-! ## The report -/

/-- What a process has to say: what it wrote to its standard output, if that is any byte, and to its
standard error otherwise. -/
def Ending.said (e : Ending) : List Char :=
  if e.stdout = [] then Text.Utf8.decodeLossy e.stderr else Text.Utf8.decodeLossy e.stdout

theorem Output.text_ofEnding (label : List Char) (e : Ending) :
    (ofEnding label e).text = e.said := by
  simp only [text, ofEnding, Ending.said, Text.Utf8.decodeLossy_eq_nil_iff]

theorem Output.labelled_ofEnding (label : List Char) (e : Ending) :
    (ofEnding label e).labelled = label ++ " Output:\n".toList ++ e.said := by
  rw [labelled, text_ofEnding]
  rfl

/-- What is reported of a fault, for the names of both programs. -/
def LintFault.report (first second : String) : LintFault → String
  | toolNotFound program reason =>
    "Error: Required tool not found. Please ensure " ++ first ++ " and " ++ second ++
      " are installed. " ++ (program ++ ": " ++ reason)
  | notStarted program reason =>
    "Error running static analysis: " ++ ("failed to run " ++ program ++ ": " ++ reason)

namespace Runner

variable (r : Runner)

theorem reportOf_ok (e e' : Ending) :
    r.reportOf (.ok [.ofEnding r.first.label e, .ofEnding r.second.label e']) =
      r.first.label ++ " Output:\n".toList ++ e.said ++ '\n' ::
        (r.second.label ++ " Output:\n".toList ++ e'.said) := by
  rw [reportOf, List.map_cons, List.map_cons, Output.labelled_ofEnding, Output.labelled_ofEnding]
  simp only [List.intercalate, List.map_nil, List.intersperse_cons_cons,
    List.intersperse_singleton,
    List.flatten_cons, List.flatten_nil, List.append_nil, List.singleton_append]

theorem reportOf_error (fault : LintFault) :
    r.reportOf (.error fault) = (fault.report r.first.program r.second.program).toList := by
  cases fault <;> dsimp only [reportOf, LintFault.report, LintFault.message]

/-- Both programs are looked up before one is started, and the second one is started only behind the
first one.  Both outputs are reported if both start.  Otherwise the first fault is, in a text that
has the fault and the names of both programs, and that stays the same whatever tools write. -/
theorem report_all_or_nothing (r : Runner) (programs : Programs) (path : String) :
    (∀ reason, programs r.first.program = .error reason →
      r.collect programs path =
        { actions := [.lookup r.first.program]
          result := .error (.toolNotFound r.first.program reason) }) ∧
    (∀ p reason, programs r.first.program = .ok p → programs r.second.program = .error reason →
      r.collect programs path =
        { actions := [.lookup r.first.program, .lookup r.second.program]
          result := .error (.toolNotFound r.second.program reason) }) ∧
    (∀ p q, programs r.first.program = .ok p → programs r.second.program = .ok q →
      (∀ why, p [path] = .error why →
        r.collect programs path =
          { actions := [.lookup r.first.program, .lookup r.second.program,
              .launch (r.first.launch path)]
            result := .error (.ofStart r.first.program why) }) ∧
      (∀ e why, p [path] = .ok e → q [path] = .error why →
        r.collect programs path =
          { actions := [.lookup r.first.program, .lookup r.second.program,
              .launch (r.first.launch path), .launch (r.second.launch path)]
            result := .error (.ofStart r.second.program why) }) ∧
      ∀ e e', p [path] = .ok e → q [path] = .ok e' →
        r.collect programs path =
          { actions := [.lookup r.first.program, .lookup r.second.program,
              .launch (r.first.launch path), .launch (r.second.launch path)]
            result := .ok [.ofEnding r.first.label e, .ofEnding r.second.label e'] } ∧
        r.report programs path =
          r.first.label ++ " Output:\n".toList ++ e.said ++ '\n' ::
            (r.second.label ++ " Output:\n".toList ++ e'.said)) ∧
    ((∃ outputs, (r.collect programs path).result = .ok outputs) ↔
      ∃ p q e e', programs r.first.program = .ok p ∧ programs r.second.program = .ok q ∧
        p [path] = .ok e ∧ q [path] = .ok e') ∧
    ∀ fault, (r.collect programs path).result = .error fault →
      r.report programs path = (fault.report r.first.program r.second.program).toList ∧
      ∀ programs', SameFaults programs programs' →
        r.collect programs' path = r.collect programs path ∧
        r.report programs' path = r.report programs path := by
  refine ⟨?_, ?_, ?_, exists_outputs_iff, ?_⟩
  · intro reason missing
    exact collect_of_missing_first missing
  · intro p reason found missing
    exact collect_of_missing_second found missing
  · intro p q found found'
    refine ⟨?_, ?_, ?_⟩
    · intro why failed
      exact collect_of_failed_first found found' failed
    · intro e why started failed
      exact collect_of_failed_second found found' started failed
    · intro e e' started started'
      have collected := collect_of_started found found' started started'
      refine ⟨collected, ?_⟩
      rw [report, collected]
      exact r.reportOf_ok e e'
  · intro fault faulty
    refine ⟨?_, ?_⟩
    · rw [report, faulty]
      exact r.reportOf_error fault
    · intro programs' same
      have collected := collect_eq_of_sameFaults same faulty
      refine ⟨collected, ?_⟩
      rw [report, report, collected]

/-- A system with the programs of the default tools. -/
def system (pylint flake8 : Except String Program) : Programs := fun name =>
  if name = "pylint" then pylint else if name = "flake8" then flake8 else .error noProgram

/-- A program that writes the same to all files and says that it found something. -/
def writes (bytes : List UInt8) : Program := fun _ => .ok { stdout := bytes, exitCode := some 1 }

/-- A program that needs an interpreter that is not there. -/
def orphan : Program := fun _ => .error (.notFound "No such file or directory (os error 2)")

/-- The default tools where one is not found, where both start, and where the second one does not
start behind a first one that writes this or that. -/
theorem system_reported :
    (({} : Runner).collect (system (.ok (writes [97])) (.error noProgram)) "target.py").actions =
        [.lookup "pylint", .lookup "flake8"] ∧
      ({} : Runner).report (system (.ok (writes [97])) (.ok (writes []))) "target.py" =
        "Pylint Output:\na\nFlake8 Output:\n".toList ∧
      SameFaults (system (.ok (writes [97])) (.ok orphan))
        (system (.ok (writes [98])) (.ok orphan)) ∧
      ({} : Runner).report (system (.ok (writes [98])) (.ok orphan)) "target.py" =
        ({} : Runner).report (system (.ok (writes [97])) (.ok orphan)) "target.py" := by
  have same : SameFaults (system (.ok (writes [97])) (.ok orphan))
      (system (.ok (writes [98])) (.ok orphan)) := by
    constructor
    · intro name reason
      unfold system
      split
      · exact iff_of_false nofun nofun
      · exact Iff.rfl
    · intro name p p' found found'
      unfold system at found found'
      split at found
      · cases found
        rw [if_pos ‹_›] at found'
        cases found'
        intro arguments why
        exact iff_of_false nofun nofun
      · rw [if_neg ‹_›] at found'
        cases found.symm.trans found'
        intro arguments why
        exact Iff.rfl
  obtain ⟨-, missing, -⟩ :=
    report_all_or_nothing {} (system (.ok (writes [97])) (.error noProgram)) "target.py"
  obtain ⟨-, -, both, -⟩ :=
    report_all_or_nothing {} (system (.ok (writes [97])) (.ok (writes []))) "target.py"
  obtain ⟨-, -, broken, -, faulty⟩ :=
    report_all_or_nothing {} (system (.ok (writes [97])) (.ok orphan)) "target.py"
  refine ⟨congrArg Tried.actions (missing _ _ rfl rfl), ?_, same, ?_⟩
  · rw [((both _ _ rfl rfl).2.2 _ _ rfl rfl).2]
    decide
  · have failed := (broken _ _ rfl rfl).2.1 _ _ rfl rfl
    exact ((faulty _ (congrArg Tried.result failed)).2 _ same).2

end Runner

end Checkup.Lint
