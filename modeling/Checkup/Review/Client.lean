import Checkup.Config.Settings
import Checkup.Review.Completion
import Checkup.Review.Conversation
import Checkup.Web.Exchange
import Checkup.Web.Uri

/-!
# The client for completions

A `Client` sends a prompt to an endpoint and makes a completion or a fault of what comes back.
`Client.complete` also tells which request was sent, if any.
-/

namespace Checkup.Review

structure Client where
  /-- The key without blanks around it. -/
  key : List Char
  url : List Char
  model : List Char
  temperature : Float
deriving BEq, Inhabited

/-- A completion or a fault, and the request that an endpoint took. -/
structure Completed where
  sent : Option Web.Request := none
  result : Except CompletionFault (List Char)

namespace Client

/-- The failure for settings without a key. -/
def noKey : Failure := .client (Config.Settings.keyProperty ++ " not found in .env file")

/-- The client with some settings. -/
def ofSettings (s : Config.Settings) : Except Failure Client :=
  match Text.trim s.apiKey with
  | [] => .error noKey
  | key => .ok { key, url := s.apiUrl, model := s.model, temperature := s.temperature }

def conversation (c : Client) (prompt : List Char) : Conversation :=
  .ofPrompt c.model c.temperature prompt

/-- What tells the endpoint who asks. -/
def authorization (c : Client) : List Char := "Bearer ".toList ++ c.key

def noRequest (detail : String) : CompletionFault :=
  .unexpected ("failed to build request: builder error" ++ detail)

/-- A detail that names an address. -/
def forUrl (url : Web.Url) : String :=
  " for url (" ++ String.ofList url.render ++ ")"

/-- Whether requests can be sent to an address. -/
def isWeb (url : Web.Url) : Bool := url.scheme = "http" || url.scheme = "https"

/-- The request for a prompt and the address it goes to, where credentials count as part of the
request.  The address has to be one of the web and a URI, and the key the value of a header; an
address without a host is found out first, then a key that is no such value, then the scheme, and at
last what is no URI. -/
def request (c : Client) (names : Web.Names) (prompt : List Char) :
    Except CompletionFault (Web.Url × Web.Request) :=
  match Web.Url.parse? names c.url with
  | none => .error (noRequest "")
  | some found =>
    let url := found.withoutCredentials
    if url.namedHost?.isNone then .error (noRequest (forUrl url))
    else if !Web.isHeaderValue c.authorization then .error (noRequest "")
    else if !isWeb url then .error (noRequest (forUrl url))
    else if !Web.Uri.isValid url.render then .error (noRequest (forUrl url))
    else .ok (url, {
      target := url.target
      basic := found.credentials?.map fun (user, password) => Web.basicAuthorization user password
      authorization := c.authorization
      body := (c.conversation prompt).render })

/-- What a reply from an address comes to. -/
def resultOf (url : Web.Url) : Web.Reply → Except CompletionFault (List Char)
  | .refused | .unanswered => .error (.transport ("error sending request" ++ forUrl url))
  | .response status body isComplete =>
    if !isComplete then
      .error (.transport "failed to read response: error decoding response body")
    else if status ≠ 200 then .error (.status status (Text.Utf8.decodeLossy body))
    else completionOf (Text.Utf8.decodeLossy body)

/-- Sends a prompt. -/
def complete (c : Client) (endpoint : Web.Endpoint) (prompt : List Char)
    (names : Web.Names := Web.Names.common) : Completed :=
  match c.request names prompt with
  | .error fault => { result := .error fault }
  | .ok (url, request) =>
    let reply := endpoint request
    { sent := if reply = .refused then none else some request
      result := resultOf url reply }

/-- What is reported: the completion, or why there is none. -/
def reportOf : Except CompletionFault (List Char) → List Char
  | .ok text => text
  | .error fault => fault.message.toList

end Client

end Checkup.Review
