/-!
# The prompt

The prompt asks for a review of a program, which it has in full between fences.
-/

namespace Checkup.Review

/-- What stands before the program. -/
def promptOpening : String :=
  "\nAnalyze the following Python code for errors, inefficiencies, and improvements.\n" ++
    "Provide a corrected version with explanations.\n\n```python\n"

/-- What stands behind the program. -/
def promptClosing : String := "\n```"

/-- The prompt for a program. -/
def promptFor (code : List Char) : List Char :=
  promptOpening.toList ++ code ++ promptClosing.toList

end Checkup.Review
