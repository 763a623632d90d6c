import Checkup.Json.Read

/-!
# Completions

A completion is the text that an endpoint answers with: the content of the message of the first of
its choices.  `completionOf` reads it from the body of a response.  The later choices do not count,
but have to be choices.
-/

namespace Checkup.Review

/-- Why there is no completion. -/
inductive CompletionFault where
  /-- No response came. -/
  | transport (detail : String)
  /-- The endpoint refused, and said why in the body of the response. -/
  | status (code : Nat) (body : List Char)
  /-- The body of the response is no completion. -/
  | decode (detail : String)
  /-- There was no request to send. -/
  | unexpected (detail : String)
deriving BEq, DecidableEq, Inhabited

namespace CompletionFault

def message : CompletionFault → String
  | transport detail => "Request Error: " ++ detail
  | status code body => "API Error: " ++ Nat.repr code ++ " - " ++ String.ofList body
  | decode detail => "JSON Decode Error: " ++ detail
  | unexpected detail => "Unexpected Error: " ++ detail

end CompletionFault

/-- The message of a choice, of which only the content matters. -/
def messageRecord : Json.Record (Option (List Char)) :=
  { name := "struct ChoiceMessage", field := "content", absent := some none }

/-- A choice, of which only the message matters. -/
def choiceRecord : Json.Record (Option (List Char)) :=
  { name := "struct Choice", field := "message" }

/-- A response, of which only the choices matter. -/
def responseRecord : Json.Record (List (Option (List Char))) :=
  { name := "struct CompletionResponse", field := "choices" }

/-- Reads a choice: the content of its message. -/
def readChoice (bound : Nat) (cs : List Char) : Json.Reading (Option (List Char) × List Char) :=
  Json.readRecord bound choiceRecord (Json.readRecord bound messageRecord Json.readText?) cs

/-- Reads a response: the contents of the messages of its choices. -/
def readResponse (bound : Nat) (cs : List Char) :
    Json.Reading (List (Option (List Char)) × List Char) :=
  Json.readRecord bound responseRecord (Json.readList bound (readChoice bound)) cs

/-- The contents in the body of a response. -/
def contentsOf (body : List Char) : Except Json.Fault (List (Option (List Char))) :=
  Json.readWhole (readResponse (body.length + 1)) body

/-- The completion in the body of a response. -/
def completionOf (body : List Char) : Except CompletionFault (List Char) :=
  match contentsOf body with
  | .error fault => .error (.decode (fault.message body))
  | .ok [] => .error (.decode "response contained no choices")
  | .ok (none :: _) => .error (.decode "first choice has no message content")
  | .ok (some content :: _) => .ok content

end Checkup.Review
