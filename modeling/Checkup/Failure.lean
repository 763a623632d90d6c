/-!
# Failures

A `Failure` ends a run: the report itself never fails because of what the stages find.
-/

namespace Checkup

inductive Failure where
  /-- Reading or writing failed; the text is the system's. -/
  | io (text : String)
  /-- The configuration is malformed or incomplete. -/
  | config (detail : String)
  /-- The parser gave no tree. -/
  | parse (detail : String)
  /-- The client for completions could not be made. -/
  | client (detail : String)
  | fileNotFound (path : String)
deriving BEq, DecidableEq, Inhabited

namespace Failure

def message : Failure → String
  | io text => "IO error: " ++ text
  | config detail => "configuration error: " ++ detail
  | parse detail => "parse error: " ++ detail
  | client detail => "LLM error: " ++ detail
  | fileNotFound path => "file not found: " ++ path

/-- Advice to the user. -/
def help? : Failure → Option String
  | fileNotFound _ => some
      "create a .env file next to the codemedic binary containing DEEPSEEK_API_KEY=..."
  | config _ => some "each non-comment line must look like KEY=VALUE"
  | _ => none

end Failure

end Checkup
