/-
  Where a PostgreSQL server is, by the settings of a database.

  * `endpoints` reads the settings: a URL with options, or else a host, a port and a database.  It
    gives the endpoints to be tried, in order; none where an encrypted link is wanted, since no
    server here offers one.
  * `AddressFault` says why settings name no server.
-/
import TableService.Number.Reading
import TableService.Server.Endpoint
import TableService.Text.Quoted
import TableService.Text.Blank

namespace TableService.Server.Postgres

/-! ## Faults -/

/-- Why the text of a URL gives no options. -/
inductive OptionFault where
  | unknown (name : String)
  | value (name : String)
  | notText (f : Text.Utf8Fault)
  /-- An option without an equals sign. -/
  | noValue
  | openQuote
  | endOfText
  /-- Another character than the one that is wanted, after so many bytes. -/
  | character (before : Nat) (wanted found : Char)
  deriving DecidableEq, Repr

/-- A text between two grave accents. -/
def marked (s : String) : String :=
  let mark := String.singleton (Char.ofNat 0x60)
  mark ++ s ++ mark

/-- What is said of a fault. -/
def OptionFault.message : OptionFault → String
  | .unknown name => "unknown option " ++ marked name
  | .value name => "invalid value for option " ++ marked name
  | .notText f => f.message
  | .noValue => "unterminated parameter"
  | .openQuote => "unterminated quoted connection parameter value"
  | .endOfText => "unexpected EOF"
  | .character before wanted found =>
    s!"unexpected character at byte {before}: expected " ++ marked (String.singleton wanted) ++
      " but got " ++ marked (String.singleton found)

/-- Why settings name no server. -/
inductive AddressFault where
  /-- There is neither a URL nor a host. -/
  | missing
  | url (f : UrlFault)
  | scheme
  | options (f : OptionFault)
  | noDatabase
  | emptyDatabase
  deriving DecidableEq, Repr

namespace AddressFault

/-- What is said of options. -/
def ofPool (text : String) : String := "Failed to create connection pool: Config: " ++ text

/-- The error that is reported. -/
def toError : AddressFault → Error
  | .missing => .config "PostgreSQL driver requires database.url or database.host"
  | .url f => .config ("Invalid PostgreSQL URL: " ++ f.message)
  | .scheme => .config "URL must use postgresql:// or postgres:// scheme"
  | .options f =>
    .connection (ofPool ("configuration property \"url\" is invalid: invalid connection string: " ++
      f.message))
  | .noDatabase => .connection (ofPool "configuration property \"dbname\" not found")
  | .emptyDatabase =>
    .connection (ofPool "configuration property \"dbname\" contains an empty string")

/-- The line of the log for a fault that is not found until the options are used. -/
def logged? (f : AddressFault) : Option String :=
  match f.toError with
  | .connection text => some text
  | _ => none

end AddressFault

/-! ## Options -/

/-- The options of a link as far as they matter to where it leads. -/
structure Options where
  database : Option String := none
  /-- Names of hosts, or directories of sockets, in bytes. -/
  hosts : List (List UInt8) := []
  /-- Numeric addresses of the hosts. -/
  addresses : List String := []
  ports : List Nat := []
  encrypted : Bool := false
  deriving Repr

/-- The port where none is given. -/
def defaultPort : Nat := 5432

/-- The values of options with few values. -/
def choices : List (String × List String) :=
  [("sslmode", ["disable", "prefer", "require"]), ("sslnegotiation", ["postgres", "direct"]),
    ("target_session_attrs", ["any", "read-write", "read-only"]),
    ("channel_binding", ["disable", "prefer", "require"]),
    ("load_balance_hosts", ["disable", "random"])]

/-- The options that take any text. -/
def texts : List String := ["user", "password", "options", "application_name"]

/-- The options that take a number. -/
def numbers : List (String × (List Char → Bool)) :=
  [("connect_timeout", fun cs => (longIn? 10 cs).isSome),
    ("tcp_user_timeout", fun cs => (longIn? 10 cs).isSome),
    ("keepalives", fun cs => (wholeBelow? UInt64.size cs).isSome),
    ("keepalives_idle", fun cs => (longIn? 10 cs).isSome),
    ("keepalives_interval", fun cs => (longIn? 10 cs).isSome),
    ("keepalives_retries", fun cs => (wholeBelow? UInt32.size cs).isSome)]

/-- A port in a list of ports. -/
def portOf? (cs : List Char) : Option Nat :=
  if cs.isEmpty then some defaultPort else wholeBelow? UInt16.size cs

/-- A numeric address. -/
def isAddress (cs : List Char) : Bool := (Url.ipv4Pieces? cs).isSome || (Url.ipv6Of? cs).isSome

namespace Options

/-- Sets an option that takes one of a few texts, a text or a number. -/
def setSimple (o : Options) (name value : String) : Except OptionFault Options :=
  match choices.lookup name, numbers.lookup name with
  | some values, _ =>
    if !values.contains value then .error (.value name)
    else if (name = "sslmode" ∨ name = "channel_binding") ∧ value = "require" then
      .ok { o with encrypted := true }
    else .ok o
  | none, some accepts => if accepts value.toList then .ok o else .error (.value name)
  | none, none => if texts.contains name then .ok o else .error (.unknown name)

/-- Sets an option. -/
def set (o : Options) (name value : String) : Except OptionFault Options :=
  let pieces := Text.piecesAt ',' value.toList
  match name with
  | "dbname" => .ok { o with database := some value }
  | "host" => .ok { o with hosts := o.hosts ++ pieces.map fun p => bytesOf (String.ofList p) }
  | "hostaddr" =>
    if pieces.all isAddress then
      .ok { o with addresses := o.addresses ++ pieces.map String.ofList }
    else .error (.value name)
  | "port" =>
    match pieces.mapM portOf? with
    | some ports => .ok { o with ports := o.ports ++ ports }
    | none => .error (.value name)
  | name => o.setSimple name value

/-! ## The text of a URL -/

/-- The text of an encoded part. -/
def decode (cs : List Char) : Except OptionFault String :=
  (Text.decoded (Text.bytesOfPercent cs)).mapError .notText

/-- Adds an encoded host; only the directory of a socket may be other than text. -/
def addHost (o : Options) (cs : List Char) : Except OptionFault Options :=
  let bytes := Text.bytesOfPercent cs
  let added := { o with hosts := o.hosts ++ [bytes] }
  if bytes.head? = some 0x2F then .ok added
  else match Text.utf8Fault? bytes with
    | some f => .error (.notText f)
    | none => .ok added

/-- The host and the port of a part of a list of hosts. -/
def hostAndPort (cs : List Char) : Except OptionFault (List Char × Option (List Char)) :=
  let portIn (rest : List Char) : Option (List Char) :=
    if rest.isEmpty then none else some (rest.drop 1)
  if cs.head? = some '[' then
    let inner := (cs.drop 1).takeWhile (· ≠ ']')
    let rest := cs.drop (inner.length + 2)
    if !cs.contains ']' || (rest.head?.any (· ≠ ':')) then .error (.value "host")
    else .ok (inner, portIn rest)
  else
    let host := cs.takeWhile (· ≠ ':')
    .ok (host, portIn (cs.drop host.length))

/-- Adds the hosts of a list with their ports. -/
def addHosts (o : Options) (cs : List Char) : Except OptionFault Options :=
  if cs.isEmpty then .ok o
  else (Text.piecesAt ',' cs).foldlM (fun o piece => do
    let (host, port) ← hostAndPort piece
    let o ← o.addHost host
    o.set "port" (← decode (port.getD (digitsText defaultPort)))) o

/-- Sets the options behind the question mark. -/
def setAll (o : Options) (cs : List Char) : Except OptionFault Options :=
  match cs with
  | [] => .ok o
  | c :: more => do
    let cs := c :: more
    if !cs.contains '=' then throw .noValue
    let encodedName := cs.takeWhile (· ≠ '=')
    let name ← decode encodedName
    let rest := cs.drop (encodedName.length + 1)
    let value := rest.takeWhile (· ≠ '&')
    let o ← if name = "host" then o.addHost value else o.set name (← decode value)
    setAll o (rest.drop (value.length + 1))
termination_by cs.length
decreasing_by simp only [List.length_drop, List.length_cons]; omega

/-- Reads what stands behind the slashes of a URL. -/
def ofAddress (cs : List Char) : Except OptionFault Options := do
  let credentials := if cs.contains '@' then cs.takeWhile (· ≠ '@') else []
  discard (decode (credentials.takeWhile (· ≠ ':')))
  let cs := if cs.contains '@' then cs.drop (credentials.length + 1) else cs
  let hosts := cs.takeWhile fun c => c ≠ '/' && c ≠ '?'
  let o ← ({} : Options).addHosts hosts
  let path := (cs.drop hosts.length).takeWhile (· ≠ '?')
  let o ← if path.length ≤ 1 then pure o
    else do pure { o with database := some (← decode (path.drop 1)) }
  o.setAll (cs.drop (hosts.length + path.length + 1))

/-- The value of an option without quotes, after which a blank or nothing stands. -/
def bareValue : List Char → List Char
  | [] => []
  | '\\' :: c :: cs => c :: bareValue cs
  | ['\\'] => []
  | c :: cs => if Text.isBlank c then [] else c :: bareValue cs

/-- The quote at the front of a text is closed. -/
def isClosed : List Char → Bool
  | [] => false
  | '\\' :: _ :: cs => isClosed cs
  | c :: cs => c = '\'' || isClosed cs

/-- Reads a text that does not begin with a scheme and its slashes as an option with its value.  A
scheme in it is part of the name, so there is no such option. -/
def ofWords (text : List Char) : Except OptionFault Options := do
  let start := text.dropWhile Text.isBlank
  let name := start.takeWhile fun c => !Text.isBlank c && c ≠ '='
  if name.isEmpty then return {}
  match (start.drop name.length).dropWhile Text.isBlank with
  | [] => throw .endOfText
  | '=' :: rest =>
    match rest.dropWhile Text.isBlank with
    | '\'' :: value => if isClosed value then pure () else throw .openQuote
    | value => if (bareValue value).isEmpty then throw .endOfText
    throw (.unknown (String.ofList name))
  | c :: rest =>
    let before := text.take (text.length - rest.length - 1)
    throw (.character (String.ofList before).utf8ByteSize '=' c)

/-- Reads the text of a URL. -/
def ofUrlText (text : String) : Except OptionFault Options :=
  let cs := text.toList
  match ["postgres://", "postgresql://"].find? fun start => start.toList.isPrefixOf cs with
  | some start => ofAddress (cs.drop start.length)
  | none => ofWords cs

/-! ## Endpoints -/

/-- Where sockets are looked for if there is no host. -/
def defaultHosts : List (List UInt8) :=
  ["/run/postgresql", "/var/run/postgresql", "/tmp"].map bytesOf

/-- The endpoint of a host, which may be the directory of a socket. -/
def endpointOf (host : List UInt8) (port : Nat) : Endpoint :=
  if host.head? = some 0x2F then
    .socket (host ++ (if host.getLast? = some 0x2F then [] else [0x2F]) ++
      bytesOf s!".s.PGSQL.{port}")
  else .port (Text.sound host) port

/-- The endpoints in the order in which they are tried; there are none if there are not as many
addresses or ports as hosts. -/
def endpoints (o : Options) : List Endpoint :=
  let hosts := if o.hosts.isEmpty then defaultHosts else o.hosts
  let fits := (o.addresses.isEmpty || o.addresses.length == hosts.length) &&
    (o.ports.length ≤ 1 || o.ports.length == hosts.length)
  if o.encrypted || !fits then []
  else hosts.mapIdx fun i host =>
    let port := (o.ports[i]? <|> o.ports.head?).getD defaultPort
    match o.addresses[i]? with
    | some a => .port a port
    | none => endpointOf host port

end Options

/-- The endpoints of options that name a database. -/
def endpointsOf (o : Options) : Except AddressFault (List Endpoint) :=
  match o.database with
  | none => .error .noDatabase
  | some "" => .error .emptyDatabase
  | some _ => .ok o.endpoints

/-- The endpoints that settings name; a URL comes before a host. -/
def endpoints (s : DatabaseSettings) : Except AddressFault (List Endpoint) :=
  match s.url, s.host with
  | some url, _ => do
    let u ← (Url.parse url).mapError .url
    if u.scheme ≠ "postgresql" ∧ u.scheme ≠ "postgres" then throw .scheme
    endpointsOf (← (Options.ofUrlText url).mapError .options)
  | none, some host =>
    endpointsOf {
      database := s.database.filter (· ≠ "")
      hosts := [bytesOf host]
      ports := (s.port.map UInt16.toNat).toList }
  | none, none => .error .missing

end TableService.Server.Postgres
