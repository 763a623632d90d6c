import Checkup.Syntax.Issue

/-!
# Missing bodies

A compound statement whose block is empty lacks its body.  The issue is reported where the body
should be: at the next line of code behind the header.
-/

namespace Checkup.Syntax.Block

/-- Whether a line holds code: it is neither blank nor a comment. -/
def isCode (line : List Char) : Bool :=
  match Text.trim line with
  | [] => false
  | c :: _ => c ≠ '#'

/-- The first line of code among lines that begin at a row. -/
def nextCode? (row : Nat) : List (List Char) → Option (Nat × List Char)
  | [] => none
  | line :: rest => if isCode line then some (row, line) else nextCode? (row + 1) rest

/-- The row on which the header of a block ends: that of the colon right before the block, or the
block's own. -/
def headerRow (before : Option Node) (block : Node) : Nat :=
  match before with
  | some n => if n.kind = ":" then n.stop.row else block.start.row
  | none => block.start.row

def message : String := "expected an indented block"

/-- The issue for an empty block behind a header that ends on a row. -/
def missingIssue (text : List Char) (header : Nat) : Issue :=
  match nextCode? (header + 1) ((Text.lines text).drop (header + 1)) with
  | some (row, line) =>
    Issue.atRow text row (Text.byteLength line - Text.byteLength (Text.trimStart line)) message
  | none => Issue.atRow text (header + 1) 0 message

end Checkup.Syntax.Block
