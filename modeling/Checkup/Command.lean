import Checkup.Pipeline

/-!
# The command line

`Command.ofArguments` reads the command line: one file to check, or a question about the program
itself.  `Command.run` says what the program prints and how it exits.
-/

namespace Checkup

inductive Command where
  | check (path : String)
  | shortHelp
  | longHelp
  | version
  /-- The arguments make no sense. -/
  | wrong
deriving BEq, DecidableEq, Inhabited

namespace Command

def helpOpening : String := "AI-powered Python code checkup"

def shortHelpText : String :=
  helpOpening ++ "\n\n" ++
  "Usage: codemedic <FILE>\n\n" ++
  "Arguments:\n" ++
  "  <FILE>  Path to the Python file to analyze\n\n" ++
  "Options:\n" ++
  "  -h, --help     Print help (see more with '--help')\n" ++
  "  -V, --version  Print version\n"

def longHelpText : String :=
  helpOpening ++ ".\n\n" ++
  "Runs three checks on a Python file and prints one report:\n" ++
  "  1. Syntax analysis (parsed in-process, never executed)\n" ++
  "  2. Static analysis with pylint and flake8\n" ++
  "  3. AI-powered suggestions from a chat-completion endpoint\n\n" ++
  "Configuration is read from a .env file next to the executable\n" ++
  "(override with CODEMEDIC_ENV_FILE). It must define DEEPSEEK_API_KEY.\n" ++
  "Set DEEPSEEK_API_URL to use a different completion endpoint.\n\n" ++
  "Example:\n" ++
  "  codemedic src/app.py\n\n" ++
  "Usage: codemedic <FILE>\n\n" ++
  "Arguments:\n" ++
  "  <FILE>\n" ++
  "          Path to the Python file to analyze\n\n" ++
  "Options:\n" ++
  "  -h, --help\n" ++
  "          Print help (see a summary with '-h')\n\n" ++
  "  -V, --version\n" ++
  "          Print version\n"

def versionText : String := "codemedic 0.1.0\n"

/-- What is known behind some arguments: the file, and whether the rest are files in any case. -/
structure Seen where
  path : Option String := none
  onlyFiles : Bool := false

/-- Takes a file, of which there may be one and which has to have a name. -/
def Seen.takeFile (seen : Seen) (arg : String) : Option Seen :=
  if seen.path.isSome || arg.isEmpty then none else some { seen with path := some arg }

/-- Reads on behind some arguments.  The first argument that asks something or makes no sense
decides. -/
def ofArgumentsFrom (seen : Seen) : List String → Command
  | [] =>
    match seen.path with
    | some path => check path
    | none => wrong
  | arg :: args =>
    let file :=
      match seen.takeFile arg with
      | some seen => ofArgumentsFrom seen args
      | none => wrong
    if seen.onlyFiles then file
    else
      match arg.toList with
      | ['-', '-'] => ofArgumentsFrom { seen with onlyFiles := true } args
      | '-' :: '-' :: name =>
        if name = "help".toList then longHelp
        else if name = "version".toList then version
        else wrong
      | '-' :: 'h' :: _ => shortHelp
      | '-' :: 'V' :: _ => version
      | '-' :: _ :: _ => wrong
      | _ => file

def ofArguments (args : List String) : Command := ofArgumentsFrom {} args

/-- What a run of the program comes to. -/
structure Outcome where
  exitCode : Nat
  stdout : List UInt8 := []
  launches : List Lint.Launch := []
  sent : List Web.Request := []
deriving BEq, Inhabited

/-- What the program meets when it runs: the path of the file with the settings, the address of the
endpoint if one is given, and everything else outside. -/
structure Environment where
  settingsPath : String
  url : Option (List Char) := none
  around : Surroundings

namespace Environment

/-- The environment variable with the path of the settings. -/
def settingsVariable : String := "CODEMEDIC_ENV_FILE"

end Environment

/-- Checks a file; output takes all that is written. -/
def runCheck (env : Environment) (path : String) : Except Failure Outcome := do
  let settings ← Config.Settings.load env.around.files env.settingsPath env.url
  let pipeline : Pipeline := { client := ← Review.Client.ofSettings settings }
  let (progress, result) := pipeline.run env.around path {}
  return {
    exitCode := match result with
      | .ok _ => 0
      | .error _ => 1
    stdout := progress.sink.written
    launches := progress.launches
    sent := progress.sent }

/-- Runs a command. -/
def run (env : Environment) : Command → Outcome
  | shortHelp => { exitCode := 0, stdout := Text.Utf8.encode shortHelpText.toList }
  | longHelp => { exitCode := 0, stdout := Text.Utf8.encode longHelpText.toList }
  | version => { exitCode := 0, stdout := Text.Utf8.encode versionText.toList }
  | wrong => { exitCode := 2 }
  | check path =>
    match runCheck env path with
    | .ok outcome => outcome
    | .error _ => { exitCode := 1 }

end Command

end Checkup
