import Checkup.Text.Blank
import Checkup.Syntax.Node

/-!
# Issues

An `Issue` says what is wrong at which line and column.  Lines and columns start at one, and columns
count characters; `Issue.ofPlace` works them out from a place in the text.
-/

namespace Checkup.Syntax

structure Issue where
  line : Nat
  column : Nat
  message : String
deriving BEq, DecidableEq, Inhabited

/-- The column of a place: one more than the characters before it in its line.  A place that is
not between two characters of a line counts as the end of the line. -/
def columnOf (text : List Char) (row column : Nat) : Nat :=
  let line := (Text.lines text).getD row []
  ((Text.takeBytes? column line).getD line).length + 1

/-- The text between two places, empty if they are not places of the text in order. -/
def textBetween (text : List Char) (start stop : Place) : List Char :=
  if start.byte ≤ stop.byte then
    ((Text.dropBytes? start.byte text).bind (Text.takeBytes? (stop.byte - start.byte))).getD []
  else []

namespace Node

/-- The text that a node covers. -/
def text (n : Node) (source : List Char) : List Char := textBetween source n.start n.stop

end Node

namespace Issue

/-- The issue at a row and a number of bytes behind its start. -/
def atRow (text : List Char) (row column : Nat) (message : String) : Issue :=
  { line := row + 1, column := columnOf text row column, message }

def ofPlace (text : List Char) (p : Place) (message : String) : Issue :=
  atRow text p.row p.column message

/-- The issue as one line of text. -/
def render (i : Issue) : String :=
  i.message ++ " (line " ++ Nat.repr i.line ++ ", column " ++ Nat.repr i.column ++ ")"

/-- Whether an issue comes before another one in the text. -/
def isBefore (a b : Issue) : Bool :=
  a.line < b.line || (a.line = b.line && a.column < b.column)

end Issue

end Checkup.Syntax
