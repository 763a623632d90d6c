import Checkup.Config.Properties
import Checkup.Decimal.Layout
import Checkup.Files

/-!
# Settings

`Settings.ofProperties` takes from properties what a run needs: the key for the completion endpoint
and the time limit of a request.  The address of the endpoint may be given from outside, and the
rest is fixed.
-/

namespace Checkup.Config

structure Settings where
  /-- The secret that lets a request in. -/
  apiKey : List Char
  /-- The address of the completion endpoint. -/
  apiUrl : List Char
  model : List Char
  temperature : Float
  /-- The time limit of a request in seconds. -/
  timeoutSeconds : Nat
deriving BEq, Inhabited

/-- What is wrong with properties as settings. -/
inductive SettingsFault where
  | noKey
  | badTimeout (value : List Char)
deriving BEq, DecidableEq, Inhabited

namespace Settings

def keyProperty : String := "DEEPSEEK_API_KEY"

def timeoutProperty : String := "REQUEST_TIMEOUT_SECS"

/-- The environment variable with the address of the endpoint. -/
def urlVariable : String := "DEEPSEEK_API_URL"

def defaultUrl : String := "https://openrouter.ai/api/v1/chat/completions"

def defaultModel : String := "deepseek/deepseek-chat"

def defaultTemperature : Float := 0.7

def defaultTimeoutSeconds : Nat := 60

end Settings

namespace SettingsFault

def message : SettingsFault → String
  | noKey => Settings.keyProperty ++ " not found in .env file"
  | badTimeout value =>
    Settings.timeoutProperty ++ " must be a positive integer, got " ++
      String.ofList (Text.quoted value)

def failure (f : SettingsFault) : Failure := .config f.message

end SettingsFault

namespace Settings

/-- Numbers of seconds are less than this. -/
def secondsBound : Nat := 0x10000000000000000

def isDigit (c : Char) : Bool := '0' ≤ c && c ≤ '9'

/-- A number of seconds: a plus sign or none, then decimal digits.  Zero is none. -/
def seconds? (cs : List Char) : Option Nat :=
  let digits := match cs with
    | '+' :: digits => digits
    | digits => digits
  if digits ≠ [] && digits.all isDigit then
    let n := digits.foldl (fun n c => 10 * n + (c.toNat - '0'.toNat)) 0
    if 0 < n && n < secondsBound then some n else none
  else none

/-- A text without the blanks around it, if anything is left. -/
def nonBlank? (cs : List Char) : Option (List Char) :=
  let trimmed := Text.trim cs
  if trimmed = [] then none else some trimmed

/-- The settings that properties make, for an address from outside or none. -/
def ofProperties (p : Properties) (url : Option (List Char)) : Except SettingsFault Settings :=
  match (p.get? keyProperty.toList).bind nonBlank? with
  | none => .error .noKey
  | some apiKey =>
    let settings (timeoutSeconds : Nat) : Settings :=
      { apiKey, timeoutSeconds
        apiUrl := (url.bind nonBlank?).getD defaultUrl.toList
        model := defaultModel.toList
        temperature := defaultTemperature }
    match p.get? timeoutProperty.toList with
    | none => .ok (settings defaultTimeoutSeconds)
    | some raw =>
      match seconds? raw with
      | some n => .ok (settings n)
      | none => .error (.badTimeout raw)

/-- The settings in a text. -/
def ofText (text : List Char) (url : Option (List Char)) : Except Failure Settings := do
  (ofProperties (← Properties.ofText text) url).mapError SettingsFault.failure

/-- The settings in a file. -/
def load (files : Files) (path : String) (url : Option (List Char)) : Except Failure Settings := do
  ofText (← files.readText path) url

/-- What the description of settings has in place of the key. -/
def redacted : String := "<redacted>"

/-- The settings in one line, without the key. -/
def describe (s : Settings) : List Char :=
  "CodemedicConfig \x7b api_key: ".toList ++ Text.quoted redacted.toList ++
    ", api_url: ".toList ++ Text.quoted s.apiUrl ++
    ", model: ".toList ++ Text.quoted s.model ++
    ", temperature: ".toList ++ Decimal.Layout.description.render s.temperature ++
    ", request_timeout: ".toList ++ Nat.toDigits 10 s.timeoutSeconds ++ "s \x7d".toList

end Settings

end Checkup.Config
