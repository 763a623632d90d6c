import Checkup.Text.Utf8

/-!
# Tools

A `Tool` is a program that is run on a file and prints what it finds.  The system that programs run
in is kept as data: `Programs` says whether a program is found under its name, and a `Program` what
happens if it is started.
-/

namespace Checkup.Lint

structure Tool where
  /-- What its output is headed with. -/
  label : List Char
  /-- The name or the path of its program. -/
  program : String
deriving BEq, DecidableEq, Inhabited

/-- What a process wrote, and its exit code unless a signal ended it. -/
structure Ending where
  stdout : List UInt8 := []
  stderr : List UInt8 := []
  exitCode : Option Int := some 0
deriving BEq, DecidableEq, Inhabited

/-- Why a program that was found could not be started, in the words of the system. -/
inductive StartFault where
  /-- Something it needs is not there. -/
  | notFound (reason : String)
  | other (reason : String)
deriving BEq, DecidableEq, Inhabited

/-- What starting a program with some arguments comes to. -/
abbrev Program := List String → Except StartFault Ending

/-- The programs by name.  A program that is not found has a reason for it. -/
abbrev Programs := String → Except String Program

/-- The reason why a name is the name of no program. -/
def noProgram : String := "cannot find binary path"

/-- What a tool had to say. -/
structure Output where
  label : List Char
  stdout : List Char
  stderr : List Char
  exitCode : Option Int
deriving BEq, DecidableEq, Inhabited

namespace Output

/-- What a process wrote as text.  Its exit code says nothing about success: tools that have
findings often end with one that is not zero. -/
def ofEnding (label : List Char) (e : Ending) : Output :=
  { label
    stdout := Text.Utf8.decodeLossy e.stdout
    stderr := Text.Utf8.decodeLossy e.stderr
    exitCode := e.exitCode }

/-- What is reported: the standard output, or the standard error if that is empty. -/
def text (o : Output) : List Char := if o.stdout = [] then o.stderr else o.stdout

/-- The output below its label. -/
def labelled (o : Output) : List Char := o.label ++ " Output:\n".toList ++ o.text

end Output

end Checkup.Lint
