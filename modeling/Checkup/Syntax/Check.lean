import Checkup.Failure
import Checkup.Syntax.Rule

/-!
# Checking a program

`issueOf?` finds the first issue of a program from its tree: the first part of it that could not
be read, or else the first violation of a rule.  `verdict` says the outcome in words.
-/

namespace Checkup.Syntax

/-- The most characters of the text that a message quotes. -/
def snippetLength : Nat := 40

/-- The first line of a text without the blanks around it, cut if it is long. -/
def snippet (text : List Char) : List Char :=
  let line := Text.trim (text.takeWhile (· ≠ '\n'))
  if snippetLength < line.length then line.take snippetLength ++ "...".toList else line

mutual

/-- The first node that is an error or missing; parts without errors are not looked into. -/
def errorIn? : Node → Option Node
  | n@⟨_, _, _, _, isError, isMissing, hasError, _, children⟩ =>
    if isError || isMissing then some n
    else if hasError then errorInAny? children
    else none

def errorInAny? : List Node → Option Node
  | [] => none
  | n :: ns => (errorIn? n).or (errorInAny? ns)

end

/-- What is wrong with a node that is an error or missing. -/
def errorMessage (text : List Char) (n : Node) : String :=
  if n.isMissing then "missing \"" ++ n.kind ++ "\""
  else
    match snippet (n.text text) with
    | [] => "invalid syntax"
    | s => "invalid syntax near \"" ++ String.ofList s ++ "\""

def errorIssue (text : List Char) (n : Node) : Issue :=
  Issue.ofPlace text n.start (errorMessage text n)

/-- The first issue of a program with the given tree.  If the tree has errors but shows none, the
whole program is the error. -/
def issueOf? (text : List Char) (root : Node) : Option Issue :=
  if root.hasError then some (errorIssue text ((errorIn? root).getD root))
  else firstViolation? text root

/-- The first issue of a program, given what the parser made of it. -/
def findIssue (text : List Char) (tree : Option Node) : Except Failure (Option Issue) :=
  match tree with
  | some root => .ok (issueOf? text root)
  | none => .error (.parse "parser returned no tree")

/-- The text for a program without issues. -/
def noErrors : String := "No syntax errors detected."

/-- The outcome in words. -/
def verdict : Except Failure (Option Issue) → String
  | .ok none => noErrors
  | .ok (some issue) => "Syntax Error: " ++ issue.render
  | .error e => "Unexpected Error: " ++ e.message

end Checkup.Syntax
