import Checkup.Json.Write

/-!
# Conversations

What is sent to the completion endpoint: a model, messages, and how freely to answer.  `render` gives
the JSON text of each.
-/

namespace Checkup.Review

/-- Who speaks.  Requests have messages of the user only. -/
inductive Role where
  | user
deriving BEq, DecidableEq, Inhabited

def Role.name : Role → String
  | user => "user"

structure Message where
  role : Role := .user
  content : List Char
deriving BEq, DecidableEq, Inhabited

def Message.render (m : Message) : List Char :=
  Json.writeObject [
    ("role", Json.writeString m.role.name.toList),
    ("content", Json.writeString m.content)]

structure Conversation where
  model : List Char
  messages : List Message
  temperature : Float
deriving BEq, Inhabited

namespace Conversation

/-- A conversation with nothing but a prompt in it. -/
def ofPrompt (model : List Char) (temperature : Float) (prompt : List Char) : Conversation :=
  { model, messages := [{ content := prompt }], temperature }

def render (c : Conversation) : List Char :=
  Json.writeObject [
    ("model", Json.writeString c.model),
    ("messages", Json.writeList (c.messages.map Message.render)),
    ("temperature", Json.writeNumber c.temperature)]

end Conversation

end Checkup.Review
