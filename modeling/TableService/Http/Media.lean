/-
  Media types of request bodies.

  `isJson` holds of a well-formed media type that is `application/json`, or a kind of application
  data that ends in `+json`, with any parameters.
-/
import TableService.Text.Case

namespace TableService.Http

/-- A character of a name in a media type. -/
def isTokenChar (c : Char) : Bool := c.isAlphanum || "!#$%&'*+-.^_|~".toList.contains c ||
  c = Char.ofNat 0x60

/-- What the parameters of a media type are read up to. -/
inductive ParameterState where
  /-- Before a name. -/
  | start
  | name
  /-- Before a value. -/
  | equals
  | value
  | quoted
  /-- After a value in quotes. -/
  | closed
  deriving DecidableEq

/-- Reads one character of parameters. -/
def parameterStep (state : ParameterState) (c : Char) : Option ParameterState :=
  match state with
  | .start => if c = ' ' then some .start else if isTokenChar c then some .name else none
  | .name => if c = '=' then some .equals else if isTokenChar c then some .name else none
  | .equals => if c = '"' then some .quoted else if isTokenChar c then some .value else none
  | .value => if c = ';' then some .start else if isTokenChar c then some .value else none
  | .quoted =>
    if c = '"' then some .closed
    else if c = '\t' || (0x20 ≤ c.toNat && c.toNat ≠ 0x7F) then some .quoted else none
  | .closed => if c = ';' then some .start else if c = ' ' then some .closed else none

/-- Parameters are complete, each with a name and a value. -/
def areParameters (cs : List Char) : Bool :=
  match cs.foldlM parameterStep .start with
  | some .name | some .quoted | none => false
  | some _ => true

/-- A body of this type is JSON. -/
def isJson (contentType : String) : Bool :=
  let cs := (Text.lowerAscii contentType).toList
  let kind := cs.takeWhile isTokenChar
  match cs.drop kind.length with
  | '/' :: rest =>
    let subtype := rest.takeWhile isTokenChar
    let parameters := rest.drop subtype.length
    let suffix := (subtype.reverse.takeWhile (· ≠ '+')).reverse
    kind == "application".toList && suffix == "json".toList &&
      (subtype == suffix || subtype.length > 5) &&
      match parameters with
      | [] => true
      | c :: ps => (c = ';' || c = ' ') && areParameters ps
  | _ => false

end TableService.Http
