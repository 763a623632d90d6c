import Checkup.Failure
import Checkup.Text.Utf8

/-!
# Files

What reading a file gives is kept apart from the reading itself: `Files` says it for every path, and
`Files.readText` makes text or a failure of it.
-/

namespace Checkup

/-- Why the bytes of a file cannot be had. -/
inductive ReadFault where
  | notFound
  /-- Any other reason, in the words of the system. -/
  | other (text : String)
deriving BEq, DecidableEq, Inhabited

namespace ReadFault

def directory : ReadFault := .other "Is a directory (os error 21)"

end ReadFault

/-- What is found under each path. -/
abbrev Files := String → Except ReadFault (List UInt8)

namespace Files

/-- The failure for bytes that are not text. -/
def notText : Failure := .io "stream did not contain valid UTF-8"

/-- The text of a file. -/
def readText (files : Files) (path : String) : Except Failure (List Char) :=
  match files path with
  | .error .notFound => .error (.fileNotFound path)
  | .error (.other text) => .error (.io text)
  | .ok bytes =>
    match Text.Utf8.decode? bytes with
    | some text => .ok text
    | none => .error notText

end Files

end Checkup
