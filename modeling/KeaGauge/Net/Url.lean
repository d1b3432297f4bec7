import KeaGauge.Net.Host
/-!
# URLs

Where something is found over HTTP: whether the connection is encrypted, who
asks, at which host and port, and for which path and query. A text is read as
browsers read it: line breaks and tabs count as nothing, any number of slashes
may stand behind the scheme, a backslash counts as a slash, and segments that
are dots move up or stay in the path. What follows a number sign is of no
interest.
-/

namespace KeaGauge.Net

/-- A URL of HTTP. The credentials are a name and a password with a colon
between them. -/
structure Url where
  isEncrypted : Bool
  credentials : Option String
  host : Host
  port : Nat
  path : String
  query : Option String
deriving DecidableEq

namespace Url

/-- Whether a character ends a segment of a path. -/
def isSlash (c : Char) : Bool := c = '/' || c = '\\'

/-- Whether a character ends the host and the port. -/
def endsAuthority (c : Char) : Bool := isSlash c || c = '?' || c = '#'

/-- The text without the spaces and control characters at its ends, and
without line breaks and tabs. -/
def significant (cs : List Char) : List Char :=
  let isEdge (c : Char) : Bool := c.toNat ≤ 0x20
  let cs := ((cs.dropWhile isEdge).reverse.dropWhile isEdge).reverse
  cs.filter fun c => !(['\t', '\n', '\r'].contains c)

/-! ## Who asks, and where -/

/-- What stands in front of the last at sign, if there is one, and what
behind it. -/
def splitUser (cs : List Char) : Option (List Char) × List Char :=
  if cs.contains '@' then
    let behind := (cs.reverse.takeWhile (· ≠ '@')).reverse
    (some (cs.take (cs.length - behind.length - 1)), behind)
  else (none, cs)

/-- The text that is percent encoded, if it is one. -/
def decoded? (cs : List Char) : Option String :=
  (Text.decodeUtf8? (Text.percentDecode (Text.encodeUtf8 cs))).map String.ofList

/-- The credentials of a user. A password that is no text counts as none, and
a user without name and password as nobody. -/
def credentialsOf? (user : List Char) : Option String := do
  let name ← decoded? (user.takeWhile (· ≠ ':'))
  let rest := (user.dropWhile (· ≠ ':')).drop 1
  let password := if rest.isEmpty then none else decoded? rest
  if name.isEmpty ∧ password = none then none else some (name ++ ":" ++ password.getD "")

/-- The characters of the host, and what follows them: all up to the first
colon that is not in brackets. -/
def splitHost : (inBrackets : Bool) → List Char → List Char × List Char
  | _, [] => ([], [])
  | inBrackets, c :: rest =>
    if c = ':' ∧ inBrackets = false then ([], c :: rest)
    else
      let (host, behind) := splitHost (if c = '[' then true else if c = ']' then false else inBrackets) rest
      (c :: host, behind)

/-- The port where none is named. -/
def standardPort (isEncrypted : Bool) : Nat := if isEncrypted then 443 else 80

/-- The port that follows a host. -/
def port? (isEncrypted : Bool) : List Char → Option Nat
  | [] | [':'] => some (standardPort isEncrypted)
  | ':' :: digits =>
    if digits.all (Text.isDigitIn 10) then
      (some (Text.ofDigits 10 digits)).filter (· < 0x10000)
    else none
  | _ => none

/-! ## Paths -/

/-- The characters that are percent encoded in a query. -/
def isReservedInQuery (c : Char) : Bool := [' ', '"', '#', '<', '>', '\''].contains c

/-- The characters that are percent encoded in a path. -/
def isReservedInPath (c : Char) : Bool :=
  [' ', '"', '#', '<', '>', '?', '\x60', '\x7b', '\x7d'].contains c

/-- How many dots a segment is, if it is nothing else. A dot may be percent
encoded. -/
def dots? : List Char → Option Nat
  | [] => some 0
  | '.' :: rest => (dots? rest).map (· + 1)
  | '%' :: '2' :: c :: rest => if c = 'e' ∨ c = 'E' then (dots? rest).map (· + 1) else none
  | _ => none

/-- The segments after one more, the last of which takes the place of one that
is dots. -/
def place (placed : List (List Char)) (segment : List Char) (isLast : Bool) : List (List Char) :=
  let ending := if isLast then [[]] else []
  match dots? segment with
  | some 1 => placed ++ ending
  | some 2 => placed.dropLast ++ ending
  | _ => placed ++ [Text.percentEncode isReservedInPath segment]

/-- The segments that are left of segments. -/
def resolve : List (List Char) → List (List Char) → List (List Char)
  | placed, [] => placed
  | placed, segment :: rest => resolve (place placed segment rest.isEmpty) rest

/-- The path of what follows the host. -/
def pathOf (cs : List Char) : String :=
  let segments := (cs.map fun c => if isSlash c then '/' else c).drop 1 |>.splitOn '/'
  String.ofList ('/' :: ['/'].intercalate (resolve [] segments))

/-- The query of what follows the path. -/
def queryOf? : List Char → Option String
  | '?' :: cs =>
    some (String.ofList (Text.percentEncode isReservedInQuery (cs.takeWhile (· ≠ '#'))))
  | _ => none

/-! ## The whole -/

/-- Whether a scheme is one of HTTP, and then whether it is the encrypted
one. -/
def isEncrypted? (scheme : List Char) : Option Bool :=
  match String.ofList (scheme.map Char.toLower) with
  | "http" => some false
  | "https" => some true
  | _ => none

/-- **The URL that a text is**, if it is one of HTTP. -/
def ofText? (s : String) : Option Url := do
  let cs := significant s.toList
  let isEncrypted ← isEncrypted? (cs.takeWhile (· ≠ ':'))
  let cs ← Text.after? ':' (cs.dropWhile (· ≠ ':'))
  let cs := cs.dropWhile isSlash
  let (user, place) := splitUser (cs.takeWhile fun c => !endsAuthority c)
  let (host, behind) := splitHost false place
  let rest := cs.dropWhile fun c => !endsAuthority c
  let isInPath (c : Char) : Bool := c ≠ '?' && c ≠ '#'
  return {
    isEncrypted
    credentials := user.bind credentialsOf?
    host := ← Host.ofUrlChars? host
    port := ← port? isEncrypted behind
    path := pathOf (rest.takeWhile isInPath)
    query := queryOf? (rest.dropWhile isInPath) }

/-- The host, and the port where it is not the standard one. -/
def authority (u : Url) : String :=
  if u.port = standardPort u.isEncrypted then u.host.urlText
  else u.host.urlText ++ s!":{u.port}"

/-- The path and the query. -/
def resource (u : Url) : String := u.path ++ ((u.query.map ("?" ++ ·)).getD "")

end Url

end KeaGauge.Net
