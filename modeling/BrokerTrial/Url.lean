import BrokerTrial.Text.Base64
import BrokerTrial.Url.Host

/-!
# Web addresses

An address as a user writes it, and as it is requested: canonical host, no default port, no steps like
`..` in the path, and everything that is not plain ASCII percent encoded.
-/

namespace BrokerTrial

structure Url where
  scheme : String
  /-- Who asks, percent encoded like the password. -/
  username : String := ""
  password : Option String := none
  /-- The host; an address of another kind than `http` may have none, or an empty one. -/
  host : Option String
  port : Option Nat := none
  path : String
  query : Option String := none
  fragment : Option String := none
  deriving DecidableEq, Repr

namespace Url

/-- The port of a scheme whose addresses have hosts and paths. -/
def defaultPort? : String → Option Nat
  | "http" | "ws" => some 80
  | "https" | "wss" => some 443
  | "ftp" => some 21
  | _ => none

def hasHost (u : Url) : Bool := u.host.any (!·.isEmpty)

/-- Requests can be made to the address. -/
def requestable (u : Url) : Bool := u.hasHost && (u.scheme == "http" || u.scheme == "https")

/-- Who asks, as a header has it; nothing if the name is no text, or if no one is named. -/
def credentials (u : Url) : Option String := do
  let plain (s : String) : Option String := String.fromUTF8? ⟨(percentDecode s.toList).toArray⟩
  let name ← plain u.username
  let password := u.password.bind plain
  if name.isEmpty && password.isNone then none
  else return "Basic " ++ String.ofList (Text.Base64.encode (name ++ ":" ++ password.getD "").toUTF8.toList)

/-- Who asks, in front of the host. What goes into a header is left out. -/
def userText (u : Url) : String :=
  if u.credentials.isSome || u.username.isEmpty && u.password.isNone then ""
  else u.username ++ (match u.password with | some p => ":" ++ p | none => "") ++ "@"

def text (u : Url) : String :=
  u.scheme ++ ":" ++
    (match u.host with
      | some h => "//" ++ u.userText ++ h ++ (match u.port with | some p => ":" ++ toString p | none => "")
      | none => "") ++
    u.path ++
    (match u.query with | some q => "?" ++ q | none => "") ++
    (match u.fragment with | some f => "#" ++ f | none => "")

/-- The text without controls and spaces around it, and without tabs and line breaks in it. -/
def cleaned (s : String) : List Char :=
  let edge (c : Char) : Bool := c.toNat ≤ 0x20
  let inner := (s.toList.dropWhile edge).reverse.dropWhile edge
  inner.reverse.filter fun c => c != '\t' && c != '\n' && c != '\r'

/-- The scheme that begins an address, and what follows its colon. -/
def splitScheme (s : List Char) : Option (String × List Char) :=
  let isSchemeChar (c : Char) : Bool := c.isAlphanum || c == '+' || c == '-' || c == '.'
  let scheme := s.takeWhile isSchemeChar
  match scheme, s.dropWhile isSchemeChar with
  | c :: _, ':' :: rest =>
    if c.isAlpha then some ((String.ofList scheme).toLower, rest) else none
  | _, _ => none

def isHere (segment : String) : Bool := segment.toLower == "." || segment.toLower == "%2e"

def isBack (segment : String) : Bool :=
  ["..", ".%2e", "%2e.", "%2e%2e"].contains segment.toLower

/-- Take the steps of a path; `done` holds the segments so far, latest first. -/
def walk : List String → List String → List String
  | [], done => done.reverse
  | [last], done =>
    if isBack last then ("" :: done.drop 1).reverse
    else if isHere last then ("" :: done).reverse
    else (last :: done).reverse
  | segment :: rest, done =>
    if isBack segment then walk rest (done.drop 1)
    else if isHere segment then walk rest done
    else walk rest (segment :: done)

def canonicalPath (s : List Char) : String :=
  let s := match s with
    | '/' :: rest => rest
    | s => s
  let segments := ((percentEncodeChars inPathSet s).splitOn '/').map String.ofList
  "/" ++ "/".intercalate (walk segments [])

/-- Whom an address leads to, and who asks. -/
structure Authority where
  username : String
  password : Option String
  host : String
  port : Option Nat

/-- The name at the head of a text, to the first colon that is not in brackets. -/
def splitName (bracketed : Bool) : List Char → List Char × List Char
  | [] => ([], [])
  | c :: rest =>
    if c == ':' && !bracketed then ([], c :: rest)
    else
      let (name, rest) := splitName (if c == '[' then true else if c == ']' then false else bracketed) rest
      (c :: name, rest)

/-- The port behind a name; none if it is that of the scheme. -/
def portOf (default : Option Nat) (digits : List Char) : Except ParseError (Option Nat) :=
  if digits.any fun c => !c.isDigit then .error .invalidPort
  else if digits.isEmpty then .ok none
  else
    let n := digits.foldl (fun n c => min (n * 10 + (c.toNat - 0x30)) 65536) 0
    if n = 65536 then .error .invalidPort
    else .ok (if some n = default then none else some n)

/-- The authority of an address; `default` is the port of a scheme on the web. -/
def authority (default : Option Nat) (s : List Char) : Except ParseError Authority := do
  let (user, site) := match s.reverse.span (· != '@') with
    | (last, _ :: front) => (front.reverse, last.reverse)
    | (all, []) => ([], all.reverse)
  let (name, secret) := user.span (· != ':')
  let username := String.ofList (percentEncodeChars inUserSet name)
  let password := match secret.drop 1 with
    | [] => none
    | p => some (String.ofList (percentEncodeChars inUserSet p))
  let (name, port) := splitName false site
  if name.isEmpty && (default.isSome || !port.isEmpty || !username.isEmpty || password.isSome) then .error .emptyHost
  else
    let host ← canonicalHost default.isSome name
    let port ← portOf default (port.drop 1)
    return { username, password, host, port }

def parse (s : String) : Except ParseError Url :=
  match splitScheme (cleaned s) with
  | none => .error .relative
  | some (scheme, rest) =>
    let (front, after) := rest.span (· != '#')
    let fragment := match after with
      | _ :: f => some (percentEncode inFragmentSet (String.ofList f))
      | [] => none
    let (place, after) := front.span (· != '?')
    let query := match after with
      | _ :: q => some (percentEncode inQuerySet (String.ofList q))
      | [] => none
    match defaultPort? scheme, place with
    | some port, place =>
      let place := (place.map fun c => if c == '\\' then '/' else c).dropWhile (· == '/')
      let (name, path) := place.span (· != '/')
      (authority port name).map fun a =>
        { scheme, username := a.username, password := a.password, host := some a.host, port := a.port
          path := canonicalPath path, query, fragment }
    | none, '/' :: '/' :: place =>
      let (name, path) := place.span (· != '/')
      (authority none name).map fun a =>
        { scheme, username := a.username, password := a.password, host := some a.host, port := a.port, query, fragment
          path := if path.isEmpty then "" else canonicalPath path }
    | none, place =>
      .ok { scheme, host := none, path := percentEncode isControl (String.ofList place), query, fragment }

end Url

end BrokerTrial
