/-
  URLs.

  * `Url.parse` reads an absolute URL: a scheme, and behind two slashes a user with a password, a
    host and a port, then a path, a query and a fragment.  Characters that cannot stand in a part
    are encoded, and dots among the segments of the path are resolved.
  * `Url.text` writes a URL; `Url.masked` is its text without the password.
  * `Url.parameters` are the names and values in the query.

  The schemes of the web always have a host, of which more is known; their slashes may lean either
  way.
-/
import TableService.Text.Utf8
import TableService.Url.Host

namespace TableService

/-- What stands behind the two slashes; the user and the password are encoded. -/
structure Url.Authority where
  user : String
  password : String
  host : Option Url.Host
  port : Option Nat
  deriving DecidableEq, Repr

/-- An absolute URL; without an authority the path is kept as it is. -/
structure Url where
  scheme : String
  authority : Option Url.Authority
  path : String
  query : Option String
  fragment : Option String
  deriving DecidableEq, Repr

namespace Url

/-! ## Schemes -/

/-- The schemes of the web with the ports that need not be written. -/
def webPorts : List (String × Nat) :=
  [("http", 80), ("https", 443), ("ws", 80), ("wss", 443), ("ftp", 21)]

/-- The scheme is one of the web. -/
def isWeb (scheme : String) : Bool := (webPorts.lookup scheme).isSome

/-- The characters that are read: not those up to a blank at both ends, nor any tab or line end. -/
def significant (cs : List Char) : List Char :=
  let outer (c : Char) : Bool := c.toNat ≤ 0x20
  ((cs.dropWhile outer).reverse.dropWhile outer).reverse.filter fun c =>
    c ≠ '\t' && c ≠ '\n' && c ≠ '\r'

/-- A letter of ASCII. -/
def isLetter (c : Char) : Bool := c.isAlpha

/-- The scheme in lower case, and what follows its colon. -/
def scheme? (cs : List Char) : Option (String × List Char) :=
  let name := cs.takeWhile fun c => c.isAlphanum || c = '+' || c = '-' || c = '.'
  match cs.drop name.length with
  | ':' :: rest =>
    if (name.head?.any isLetter) then some (String.ofList (name.map Char.toLower), rest) else none
  | _ => none

/-! ## Characters that are encoded -/

/-- In a fragment. -/
def inFragment (c : Char) : Bool := c = Char.ofNat 0x60 || " \"<>".toList.contains c

/-- In a query. -/
def inQuery (c : Char) : Bool := " \"#<>".toList.contains c

/-- In a path. -/
def inPath (c : Char) : Bool := inFragment c || "#?\x7b\x7d".toList.contains c

/-- In the name of a user. -/
def inUser (c : Char) : Bool := inPath c || "/:;=@[\\]^|".toList.contains c

/-! ## The authority -/

/-- The end of an authority. -/
def endsAuthority (web : Bool) (c : Char) : Bool :=
  c = '/' || c = '?' || c = '#' || (web && c = '\\')

/-- What stands before and after the last occurrence of a character. -/
def splitAtLast (c : Char) (cs : List Char) : Option (List Char × List Char) :=
  if cs.contains c then
    let after := (cs.reverse.takeWhile (· ≠ c)).reverse
    some (cs.take (cs.length - after.length - 1), after)
  else none

/-- The user and the password, encoded. -/
def userInfo (cs : List Char) : List Char × List Char :=
  let user := cs.takeWhile (· ≠ ':')
  (Text.percentEncoded inUser user, Text.percentEncoded inUser (cs.drop (user.length + 1)))

/-- The characters of a host: up to a colon outside brackets. -/
def hostLength : Bool → List Char → Nat
  | _, [] => 0
  | inside, c :: cs =>
    if c = ':' && !inside then 0
    else if c = '[' then hostLength true cs + 1
    else if c = ']' then hostLength false cs + 1
    else hostLength inside cs + 1

/-- The number of a port after its colon; none where it need not be written.  The path may begin
with a slash that leans the other way. -/
def portOf (scheme : String) (cs : List Char) : Except UrlFault (Option Nat × List Char) :=
  let digits := cs.takeWhile Char.isDigit
  let rest := cs.drop digits.length
  let n := digitsValue digits
  if 65535 < n then .error .port
  else match rest.head? with
    | some c => if c = '\\' then .ok (shown digits n, rest) else .error .port
    | none => .ok (shown digits n, rest)
where
  /-- The port as it is written. -/
  shown (digits : List Char) (n : Nat) : Option Nat :=
    if digits.isEmpty || webPorts.lookup scheme = some n then none else some n

/-- Reads an authority, which may be followed by more; what is left of it belongs to the path. -/
def readAuthority (scheme : String) (cs : List Char) (more : Bool) :
    Except UrlFault (Authority × List Char) := do
  let web := isWeb scheme
  let (info, rest) := (splitAtLast '@' cs).getD ([], cs)
  if more && info.isEmpty && rest.isEmpty && !cs.isEmpty then throw .emptyHost
  let (user, password) := userInfo info
  let hostText := rest.take (hostLength false rest)
  let host ← if web then Host.ofDomain hostText else Host.ofOpaque hostText
  let afterHost := rest.drop hostText.length
  if host = .name "" then
    if !afterHost.isEmpty || !user.isEmpty || !password.isEmpty then throw .emptyHost
  let (port, left) ← match afterHost with
    | ':' :: p => portOf scheme p
    | l => pure (none, l)
  return (⟨String.ofList user, String.ofList password,
    if host = .name "" then none else some host, port⟩, left)

/-! ## The path -/

/-- A segment without its encoded dots. -/
def dotted (segment : List Char) : String :=
  (String.ofList (segment.map Char.toLower)).replace "%2e" "."

/-- Resolves the dots among segments; the segments before come in reverse. -/
def resolved (before : List (List Char)) : List (List Char) → List (List Char)
  | [] => before.reverse
  | s :: rest =>
    let last := rest.isEmpty
    if dotted s = ".." then resolved (if last then [] :: before.tail else before.tail) rest
    else if dotted s = "." then resolved (if last then [] :: before else before) rest
    else resolved (s :: before) rest

/-- The path behind an authority. -/
def pathText (web : Bool) (cs : List Char) : String :=
  let cs := if web then cs.map fun c => if c = '\\' then '/' else c else cs
  if cs.isEmpty && !web then ""
  else
    let inner := if cs.head? = some '/' then cs.drop 1 else cs
    let segments := (Text.piecesAt '/' inner).map (Text.percentEncoded inPath)
    String.ofList ((resolved [] segments).flatMap fun s => '/' :: s)

/-! ## Reading and writing -/

/-- The query and the fragment, with their marks. -/
def tailOf (cs : List Char) : Option String × Option String :=
  let encoded (p : Char → Bool) (l : List Char) := String.ofList (Text.percentEncoded p l)
  let (query, fragment) := (cs.takeWhile (· ≠ '#'), cs.dropWhile (· ≠ '#'))
  (if query.head? = some '?' then some (encoded inQuery (query.drop 1)) else none,
    if fragment.isEmpty then none else some (encoded inFragment (fragment.drop 1)))

/-- Reads a URL of which the scheme is known. -/
def afterScheme (scheme : String) (cs : List Char) : Except UrlFault Url := do
  let web := isWeb scheme
  let before := cs.takeWhile fun c => c ≠ '?' && c ≠ '#'
  let (query, fragment) := tailOf (cs.drop before.length)
  let slashed := if web then before.dropWhile fun c => c = '/' || c = '\\' else before.drop 2
  if scheme ≠ "file" ∧ (web || before.take 2 = ['/', '/']) then
    let text := slashed.takeWhile fun c => !endsAuthority web c
    let (a, left) ← readAuthority scheme text (text.length < slashed.length)
    return ⟨scheme, some a, pathText web (left ++ slashed.drop text.length), query, fragment⟩
  else return ⟨scheme, none, String.ofList before, query, fragment⟩

/-- Reads an absolute URL. -/
def parse (s : String) : Except UrlFault Url :=
  match scheme? (significant s.toList) with
  | some (scheme, rest) => afterScheme scheme rest
  | none => .error .relative

/-- The text of a host. -/
def Host.text : Host → String
  | .name s => s
  | .ipv6 ps => "[" ++ String.ofList (ipv6Text ps) ++ "]"

/-- The text of an authority. -/
def Authority.text (a : Authority) : String :=
  a.user ++ (if a.password.isEmpty then "" else ":" ++ a.password) ++
    (if a.user.isEmpty && a.password.isEmpty then "" else "@") ++
    (a.host.map Host.text).getD "" ++ (a.port.map fun n => ":" ++ toString n).getD ""

/-- The text of a URL. -/
def text (u : Url) : String :=
  u.scheme ++ ":" ++ (u.authority.map fun a => "//" ++ a.text).getD "" ++ u.path ++
    (u.query.map ("?" ++ ·)).getD "" ++ (u.fragment.map ("#" ++ ·)).getD ""

/-- The URL with another password in place of the one that it has. -/
def hidePassword (u : Url) : Url :=
  { u with authority := u.authority.map fun a =>
      if a.password.isEmpty then a else { a with password := "***" } }

/-- The text of a URL without its password. -/
def masked (s : String) : String :=
  match parse s with
  | .ok u => u.hidePassword.text
  | .error _ => "[invalid-url]"

/-- The host that a URL has. -/
def host? (u : Url) : Option Host := u.authority.bind Authority.host

/-- The text of a name or value in a query; a plus stands for a blank. -/
def formText (cs : List Char) : String :=
  let plain := cs.map fun c => if c = '+' then ' ' else c
  String.ofList (Text.readable (Text.bytesOfPercent plain))

/-- The names and values in the query. -/
def parameters (u : Url) : List (String × String) :=
  let pieces := (Text.piecesAt '&' (u.query.getD "").toList).filter (!·.isEmpty)
  pieces.map fun p =>
    let name := p.takeWhile (· ≠ '=')
    (formText name, formText (p.drop (name.length + 1)))

end Url

end TableService
