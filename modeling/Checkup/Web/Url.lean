import Checkup.Web.Host

/-!
# Addresses

`Url.parse?` reads an absolute address the way browsers do, and `Url.render` writes it in its normal
form.  In the addresses of the web and of files a backslash counts as a slash, dot segments are
resolved, and ports that go without saying are left out.
-/

namespace Checkup.Web

inductive UrlPath where
  /-- A path without structure. -/
  | opaquePath (text : List Char)
  | segments (segments : List (List Char))
deriving BEq, DecidableEq, Inhabited

structure Url where
  scheme : String
  user : List Char := []
  password : List Char := []
  host : Option Host := none
  /-- The port, unless it is the one of the scheme. -/
  port : Option Nat := none
  path : UrlPath
  query : Option (List Char) := none
  fragment : Option (List Char) := none
deriving BEq, DecidableEq, Inhabited

namespace Url

/-- The schemes of the web and their ports. -/
def webSchemes : List (String × Nat) :=
  [("http", 80), ("https", 443), ("ws", 80), ("wss", 443), ("ftp", 21)]

/-- Whether a scheme has hosts, and backslashes as slashes. -/
def isSpecial (scheme : String) : Bool :=
  scheme = "file" || (webSchemes.lookup scheme).isSome

/-- Takes away controls and blanks at the ends, and line breaks and tabs everywhere. -/
def clean (cs : List Char) : List Char :=
  let isEdge (c : Char) : Bool := c ≤ ' '
  let trimmed := ((cs.dropWhile isEdge).reverse.dropWhile isEdge).reverse
  trimmed.filter fun c => c ≠ '\t' && c ≠ '\n' && c ≠ '\r'

def isSchemeChar (c : Char) : Bool := c.isAlphanum || c = '+' || c = '-' || c = '.'

/-- The scheme in lower case and what follows its colon. -/
def cutScheme? (cs : List Char) : Option (String × List Char) :=
  match cs.takeWhile isSchemeChar, cs.dropWhile isSchemeChar with
  | c :: scheme, ':' :: rest =>
    if c.isAlpha then some (String.ofList ((c :: scheme).map Char.toLower), rest) else none
  | _, _ => none

def isSlash (special : Bool) (c : Char) : Bool := c = '/' || (special && c = '\\')

/-- Cuts off a fragment, then a query. -/
def cutEnd (cs : List Char) : List Char × Option (List Char) × Option (List Char) :=
  let beforeFragment := cs.takeWhile (· ≠ '#')
  let path := beforeFragment.takeWhile (· ≠ '?')
  let tail? (part whole : List Char) : Option (List Char) :=
    match whole.drop part.length with
    | [] => none
    | _ :: rest => some rest
  (path, tail? path beforeFragment, tail? beforeFragment cs)

/-! ## Paths -/

/-- Dots in a segment, where an escape counts as a dot. -/
def dots? : List Char → Option Nat
  | [] => some 0
  | '.' :: cs => (dots? cs).map (· + 1)
  | '%' :: '2' :: 'e' :: cs | '%' :: '2' :: 'E' :: cs => (dots? cs).map (· + 1)
  | _ => none

/-- Whether a segment is the letter of a drive. -/
def isDrive : List Char → Bool
  | [c, d] => c.isAlpha && (d = ':' || d = '|')
  | _ => false

/-- Goes up by one segment, though not above a drive. -/
def goUp (isFile : Bool) (segments : List (List Char)) : List (List Char) :=
  if isFile && segments.length = 1 && segments.all isDrive then segments else segments.dropLast

/-- Adds segments to those of a path.  Dot segments at the end leave an empty one. -/
def addSegments (isFile : Bool) (done : List (List Char)) :
    List (List Char) → List (List Char)
  | [] => done
  | s :: rest =>
    let ending := if rest.isEmpty then [[]] else []
    match dots? s with
    | some 2 => addSegments isFile (goUp isFile done ++ ending) rest
    | some 1 => addSegments isFile (done ++ ending) rest
    | _ =>
      let s := if isFile && done.isEmpty && isDrive s then s.take 1 ++ [':'] else s
      addSegments isFile (done ++ [escape .path s]) rest

/-- The path in a text behind its first slash. -/
def parsePath (scheme : String) (cs : List Char) : UrlPath :=
  .segments (addSegments (scheme = "file") [] (cs.splitOnP (isSlash (isSpecial scheme))))

/-- The path behind a host. -/
def parsePathAfterHost (scheme : String) (cs : List Char) : UrlPath :=
  match cs with
  | [] => if isSpecial scheme then .segments [[]] else .segments []
  | _ :: rest => parsePath scheme rest

/-! ## Hosts, ports and users -/

/-- The port in a text behind a colon, nothing if it goes without saying. -/
def parsePort? (scheme : String) (cs : List Char) : Option (Option Nat) :=
  if cs = [] then some none
  else do
    let n ← Host.number? 10 cs
    if 65535 < n then none
    else if webSchemes.lookup scheme = some n then some none else some (some n)

/-- The text up to a colon that is not between brackets. -/
def hostText : Bool → List Char → List Char
  | _, [] => []
  | inside, c :: cs =>
    if c = ':' && !inside then [] else c :: hostText (c = '[' || (inside && c ≠ ']')) cs

/-- Cuts a text at the last at sign. -/
def cutUser (cs : List Char) : Option (List Char) × List Char :=
  if cs.contains '@' then
    let host := (cs.reverse.takeWhile (· ≠ '@')).reverse
    (some (cs.take (cs.length - host.length - 1)), host)
  else (none, cs)

/-- Puts user, host and port into an address from the text between the slashes. -/
def withAuthority? (names : Names) (url : Url) (cs : List Char) : Option Url := do
  let (user, host) := cutUser cs
  if user.isSome && host = [] then none
  let text := hostText false host
  let special := isSpecial url.scheme
  if text = [] && (special || host ≠ []) then none
  let parsed ← if special then Host.parse? names text else Host.parseOpaque? text
  let port ← parsePort? url.scheme (host.drop (text.length + 1))
  let user := user.getD []
  let name := user.takeWhile (· ≠ ':')
  return { url with
    user := escape .user name
    password := escape .user (user.drop (name.length + 1))
    host := some parsed, port }

/-! ## Whole addresses -/

/-- The rest of the address of a file. -/
def parseFile? (names : Names) (url : Url) (cs : List Char) : Option Url :=
  let slash := isSlash true
  match cs with
  | c :: d :: rest =>
    if slash c && slash d then
      let host := rest.takeWhile (!slash ·)
      if isDrive host then
        some { url with host := some (.name []), path := parsePath url.scheme rest }
      else do
        let parsed ← if host = [] then some (.name []) else Host.parse? names host
        let parsed := if parsed = .name "localhost".toList then .name [] else parsed
        some { url with
          host := some parsed
          path := parsePathAfterHost url.scheme (rest.drop host.length) }
    else
      some { url with
        host := some (.name [])
        path := parsePath url.scheme (if slash c then d :: rest else c :: d :: rest) }
  | cs =>
    some { url with host := some (.name []), path := parsePath url.scheme (cs.dropWhile slash) }

/-- Reads an absolute address. -/
def parse? (names : Names) (text : List Char) : Option Url := do
  let (scheme, rest) ← cutScheme? (clean text)
  let (body, query, fragment) := cutEnd rest
  let url : Url := {
    scheme
    path := .segments []
    query := query.map (escape (if isSpecial scheme then .specialQuery else .query))
    fragment := fragment.map (escape .fragment) }
  let withHost (cs : List Char) : Option Url := do
    let authority := cs.takeWhile (!isSlash (isSpecial scheme) ·)
    let url ← withAuthority? names url authority
    some { url with path := parsePathAfterHost scheme (cs.drop authority.length) }
  if scheme = "file" then parseFile? names url body
  else if isSpecial scheme then withHost (body.dropWhile (isSlash true))
  else
    match body with
    | '/' :: '/' :: rest => withHost rest
    | '/' :: rest => some { url with path := parsePath scheme rest }
    | rest => some { url with path := .opaquePath (escape .controls rest) }

/-- The host, if there is one with a name. -/
def namedHost? (url : Url) : Option Host := url.host.filter (· ≠ .name [])

def renderPath (url : Url) : List Char :=
  match url.path with
  | .opaquePath text => text
  | .segments segments =>
    let isAmbiguous := url.host.isNone && 1 < segments.length && segments.head? = some []
    (if isAmbiguous then ['/', '.'] else []) ++ segments.flatMap ('/' :: ·)

def renderUser (url : Url) : List Char :=
  let password := if url.password = [] then [] else ':' :: url.password
  if url.user = [] && url.password = [] then [] else url.user ++ password ++ ['@']

def renderPort (url : Url) : List Char :=
  match url.port with
  | some n => ':' :: Nat.toDigits 10 n
  | none => []

def renderAuthority (url : Url) : List Char :=
  match url.host with
  | none => []
  | some host => '/' :: '/' :: (url.renderUser ++ host.render ++ url.renderPort)

def renderQuery (url : Url) : List Char :=
  match url.query with
  | some query => '?' :: query
  | none => []

def renderFragment (url : Url) : List Char :=
  match url.fragment with
  | some fragment => '#' :: fragment
  | none => []

/-- What a request asks the host for. -/
def target (url : Url) : List Char := url.renderPath ++ url.renderQuery

def render (url : Url) : List Char :=
  url.scheme.toList ++ ':' :: url.renderAuthority ++ url.target ++ url.renderFragment

/-- The name and the password of the user that an address names, escapes resolved.  The name has to
be a text, and a password that is none is left out. -/
def credentials? (url : Url) : Option (List Char × Option (List Char)) := do
  let user ← Text.Utf8.decode? (unescape url.user)
  let password := if url.password = [] then none else Text.Utf8.decode? (unescape url.password)
  if user = [] && password.isNone then none else some (user, password)

/-- The address without the credentials that can be read off it. -/
def withoutCredentials (url : Url) : Url :=
  if url.credentials?.isSome then { url with user := [], password := [] } else url

end Url

end Checkup.Web
