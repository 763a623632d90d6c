import Checkup.Parsing.Shown
import Checkup.Program.Grammar
import Checkup.Syntax.Check

/-!
# Python programs

The parse table of the grammar, made when it is first needed, and the check of a program's text.
-/

namespace Checkup.Program

private def tableOnce : Thunk Grammar.ParseTable := .mk fun _ => .ofGrammar grammar

/-- The parse table of Python. -/
def table : Grammar.ParseTable := tableOnce.get

/-- The syntax tree of a program. -/
def parse? (code : List Char) : Option Syntax.Node := Parsing.tree? table (String.ofList code)

/-- The first issue of a program. -/
def findIssue (code : List Char) : Except Failure (Option Syntax.Issue) :=
  Syntax.findIssue code (parse? code)

/-- The syntax report of a program. -/
def check (code : List Char) : String := Syntax.verdict (findIssue code)

end Checkup.Program
