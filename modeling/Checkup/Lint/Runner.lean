import Checkup.Lint.Tool

/-!
# Static analysis

Two tools are run on a file, one after the other.  Both programs are looked up before one of them is
started, and what is reported is the output of both or why there is none.  `Runner.collect` also
tells which programs it looked up and tried to start.
-/

namespace Checkup.Lint

inductive LintFault where
  | toolNotFound (program : String) (reason : String)
  | notStarted (program : String) (reason : String)
deriving BEq, DecidableEq, Inhabited

namespace LintFault

def message : LintFault → String
  | toolNotFound program reason => program ++ ": " ++ reason
  | notStarted program reason => "failed to run " ++ program ++ ": " ++ reason

/-- The fault of a program that was found but did not start. -/
def ofStart (program : String) : StartFault → LintFault
  | .notFound reason => toolNotFound program reason
  | .other reason => notStarted program reason

end LintFault

structure Runner where
  first : Tool := { label := "Pylint".toList, program := "pylint" }
  second : Tool := { label := "Flake8".toList, program := "flake8" }
deriving BEq, DecidableEq, Inhabited

/-- An attempt to start a program. -/
structure Launch where
  program : String
  arguments : List String
deriving BEq, DecidableEq, Inhabited

/-- The attempt to start a tool on a file. -/
def Tool.launch (tool : Tool) (path : String) : Launch :=
  { program := tool.program, arguments := [path] }

/-- What is asked of the system. -/
inductive Action where
  | lookup (program : String)
  | launch (attempt : Launch)
deriving BEq, DecidableEq, Inhabited

/-- What was done, in order, and what came of it. -/
structure Tried (β : Type) where
  actions : List Action := []
  result : Except LintFault β

namespace Tried

variable {α β : Type}

/-- The attempts to start programs. -/
def launches (t : Tried β) : List Launch :=
  t.actions.filterMap fun
    | .lookup _ => none
    | .launch attempt => some attempt

/-- Goes on unless there was a fault. -/
def andThen (t : Tried α) (next : α → Tried β) : Tried β :=
  match t.result with
  | .error fault => { actions := t.actions, result := .error fault }
  | .ok a => { next a with actions := t.actions ++ (next a).actions }

/-- Takes a step for one element after the other, until one fails.  Each step is an action. -/
def inTurn (action : α → Action) (step : α → Except LintFault β) : List α → Tried (List β)
  | [] => { result := .ok [] }
  | a :: rest =>
    match step a with
    | .error fault => { actions := [action a], result := .error fault }
    | .ok b =>
      let later := inTurn action step rest
      { actions := action a :: later.actions
        result := later.result.map (b :: ·) }

end Tried

/-- A program that was found. -/
def find (programs : Programs) (tool : Tool) : Except LintFault Program :=
  (programs tool.program).mapError (LintFault.toolNotFound tool.program)

/-- Starts a tool on a file. -/
def start (tool : Tool) (program : Program) (path : String) : Except LintFault Output :=
  match program [path] with
  | .ok ending => .ok (.ofEnding tool.label ending)
  | .error fault => .error (.ofStart tool.program fault)

/-- Looks up the programs of tools, until one is not found. -/
def findAll (programs : Programs) : List Tool → Tried (List (Tool × Program)) :=
  Tried.inTurn (fun tool => .lookup tool.program)
    (fun tool => (find programs tool).map (tool, ·))

/-- Starts tools on a file one after the other, until one does not start. -/
def startAll (path : String) : List (Tool × Program) → Tried (List Output) :=
  Tried.inTurn (fun found => .launch (found.1.launch path))
    (fun found => start found.1 found.2 path)

namespace Runner

/-- The tools in the order of the report. -/
def tools (r : Runner) : List Tool := [r.first, r.second]

/-- Runs the tools on a file, once all programs are found. -/
def collect (r : Runner) (programs : Programs) (path : String) : Tried (List Output) :=
  (findAll programs r.tools).andThen (startAll path)

/-- What is reported of the tools. -/
def reportOf (r : Runner) : Except LintFault (List Output) → List Char
  | .ok outputs => List.intercalate ['\n'] (outputs.map Output.labelled)
  | .error (.toolNotFound program reason) =>
    ("Error: Required tool not found. Please ensure " ++ r.first.program ++ " and " ++
      r.second.program ++ " are installed. " ++
      (LintFault.toolNotFound program reason).message).toList
  | .error fault => ("Error running static analysis: " ++ fault.message).toList

/-- The report on a file. -/
def report (r : Runner) (programs : Programs) (path : String) : List Char :=
  r.reportOf (r.collect programs path).result

end Runner

end Checkup.Lint
