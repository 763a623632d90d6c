/-!
# Reports

A checkup has three stages.  Each one gives a `Report`: a heading and a body, which is text whatever
the stage found and also if it could not do its work.
-/

namespace Checkup

inductive Stage where
  | syntactic
  | static
  | suggestions
deriving BEq, DecidableEq, Inhabited

namespace Stage

/-- The stages in the order in which they run. -/
def all : List Stage := [syntactic, static, suggestions]

def name : Stage → String
  | syntactic => "syntax"
  | static => "static"
  | suggestions => "suggestions"

def heading : Stage → String
  | syntactic => "=== Syntax Analysis ==="
  | static => "=== Static Analysis ==="
  | suggestions => "=== AI-Powered Suggestions ==="

end Stage

structure Report where
  stage : Stage
  body : List Char
deriving BEq, DecidableEq, Inhabited

namespace Report

def render (r : Report) : List Char := r.stage.heading.toList ++ '\n' :: r.body

end Report

end Checkup
