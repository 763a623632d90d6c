import Checkup.Web.Base64
import Checkup.Web.Url

/-!
# Exchanges

A `Request` is what a client sends to a host, and a `Reply` what comes of it.  The network is kept as
data: an `Endpoint` says for each request what comes of it.
-/

namespace Checkup.Web

/-- A request that posts a JSON text. -/
structure Request where
  target : List Char
  /-- Another authorization before the one of the client, for the user that its address names. -/
  basic : Option (List Char) := none
  authorization : List Char
  contentType : String := "application/json"
  body : List Char
deriving BEq, DecidableEq, Inhabited

/-- The authorization of a user. -/
def basicAuthorization (user : List Char) (password : Option (List Char)) : List Char :=
  "Basic ".toList ++ Base64.encode (Text.Utf8.encode (user ++ ':' :: password.getD []))

/-- The first line of a request. -/
def Request.line (r : Request) : List Char := "POST ".toList ++ r.target ++ " HTTP/1.1".toList

inductive Reply where
  /-- Nothing takes the request. -/
  | refused
  /-- The request is taken, but not answered in time or not at all. -/
  | unanswered
  /-- A response with a status and a body, of which some bytes may be missing. -/
  | response (status : Nat) (body : List UInt8) (isComplete : Bool)
deriving BEq, DecidableEq, Inhabited

abbrev Endpoint := Request → Reply

namespace Reply

/-- Statuses of responses that never have a body. -/
def hasNoBody (status : Nat) : Bool := status = 101 || status = 204 || status = 304

/-- What a client makes of a response as it is sent: a status, the bytes of a body, and how many of
the bytes announced are missing.  A status of the first hundred only announces another response, and
one that has not three digits is no response. -/
def ofWire (status : Nat) (body : List UInt8) (missing : Nat) : Reply :=
  if hasNoBody status then .response status [] true
  else if status < 200 || 999 < status then .unanswered
  else .response status body (missing = 0)

end Reply

/-- Whether a text can be the value of a header: it has no control characters except tabs. -/
def isHeaderValue (cs : List Char) : Bool := cs.all fun c => c = '\t' || (' ' ≤ c && c ≠ '\x7f')

end Checkup.Web
