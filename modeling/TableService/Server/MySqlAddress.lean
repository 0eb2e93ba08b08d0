/-
  Where a MySQL server is, by the settings of a database.

  * `endpoint?` reads the settings: a URL with parameters, or else a host and a port.  It gives
    nothing where an encrypted link is wanted, since no server here offers one.
  * `AddressFault` says why settings name no server.
-/
import TableService.Error
import TableService.Number.Reading
import TableService.Server.Endpoint
import TableService.Text.Quoted

namespace TableService.Server.MySql

/-- Why settings name no server. -/
inductive AddressFault where
  /-- There is neither a URL nor a host. -/
  | missing
  | url (f : UrlFault)
  | scheme
  /-- The URL has no host. -/
  | incomplete
  /-- The scheme has to be written in lower case. -/
  | unsupported (scheme : String)
  | value (parameter value : String)
  | parameter (name : String)
  /-- There may be fewer links than there have to be. -/
  | pool (least most : Nat)
  deriving DecidableEq, Repr

namespace AddressFault

/-- What is said of a fault. -/
def message : AddressFault → String
  | .missing => "MySQL driver requires database.url or database.host"
  | .scheme => "URL must use mysql:// or mariadb:// scheme"
  | .url f => invalid f.message
  | .incomplete => invalid "Invalid or incomplete connection URL"
  | .unsupported name =>
    invalid ("Connection URL scheme " ++ Text.backquoted name ++ " is not supported")
  | .value name given =>
    invalid ("Invalid value " ++ Text.backquoted given ++ " for connection URL parameter " ++
      Text.backquoted name)
  | .parameter name => invalid ("Unknown connection URL parameter " ++ Text.backquoted name)
  | .pool least most =>
    invalid s!"Invalid pool constraints: pool_min ({least}) > pool_max ({most})."
where
  /-- What is said of a URL. -/
  invalid (text : String) : String := "Invalid MySQL URL: " ++ text

/-- The error that is reported. -/
def toError (f : AddressFault) : Error := .config f.message

end AddressFault

/-! ## Parameters -/

/-- What a parameter takes. -/
inductive ParameterKind where
  | whole (limit : Nat)
  | flag
  | path
  | compression
  deriving DecidableEq

/-- The parameters of a URL. -/
def parameterKinds : List (String × ParameterKind) :=
  [("pool_min", .whole UInt64.size), ("pool_max", .whole UInt64.size),
    ("inactive_connection_ttl", .whole UInt64.size), ("ttl_check_interval", .whole UInt64.size),
    ("conn_ttl", .whole UInt64.size), ("abs_conn_ttl", .whole UInt64.size),
    ("abs_conn_ttl_jitter", .whole UInt64.size), ("tcp_keepalive", .whole UInt32.size),
    ("max_allowed_packet", .whole UInt64.size), ("wait_timeout", .whole UInt64.size),
    ("enable_cleartext_plugin", .flag), ("reset_connection", .flag), ("tcp_nodelay", .flag),
    ("stmt_cache_size", .whole UInt64.size), ("prefer_socket", .flag), ("secure_auth", .flag),
    ("client_found_rows", .flag), ("socket", .path), ("compression", .compression),
    ("require_ssl", .flag), ("verify_ca", .flag), ("verify_identity", .flag),
    ("built_in_roots", .flag)]

/-- A parameter takes a value. -/
def ParameterKind.accepts (k : ParameterKind) (value : String) : Bool :=
  match k with
  | .whole limit => (wholeBelow? limit value.toList).isSome
  | .flag => value == "true" || value == "false"
  | .path => true
  | .compression =>
    ["fast", "on", "true", "best"].contains value ||
      (value.toList.length == 1 && value.toList.all Char.isDigit)

/-- What parameters set. -/
structure Options where
  socket : Option String := none
  poolLeast : Nat := 10
  poolMost : Nat := 100
  encrypted : Bool := false

/-- Sets a parameter. -/
def Options.set (o : Options) (parameter : String × String) : Except AddressFault Options :=
  let (name, value) := parameter
  match parameterKinds.lookup name with
  | none => .error (.parameter name)
  | some k =>
    if !k.accepts value then .error (.value name value)
    else
      let n := (wholeBelow? UInt64.size value.toList).getD 0
      .ok (match name with
        | "socket" => { o with socket := some value }
        | "pool_min" => { o with poolLeast := n }
        | "pool_max" => { o with poolMost := n }
        | "require_ssl" => { o with encrypted := value == "true" }
        | _ => o)

/-- The options that parameters set, one after the other. -/
def Options.ofParameters (parameters : List (String × String)) : Except AddressFault Options := do
  let o ← parameters.foldlM Options.set ({} : Options)
  if o.poolMost < o.poolLeast then throw (.pool o.poolLeast o.poolMost)
  return o

/-! ## Addresses -/

/-- The port where none is given. -/
def defaultPort : Nat := 3306

/-- The text with the first occurrence of a part replaced. -/
def replaceFirst (part new : List Char) : List Char → List Char
  | [] => []
  | c :: cs =>
    if part.isPrefixOf (c :: cs) then new ++ (c :: cs).drop part.length
    else c :: replaceFirst part new cs

/-- The endpoint that a URL names. -/
def endpointOfUrl? (text : String) : Except AddressFault (Option Endpoint) := do
  let u ← (Url.parse text).mapError .url
  if u.scheme ≠ "mysql" ∧ u.scheme ≠ "mariadb" then throw .scheme
  let plain := replaceFirst "mariadb://".toList "mysql://".toList text.toList
  let u ← (Url.parse (String.ofList plain)).mapError .url
  let some host := u.host? | throw .incomplete
  if u.scheme ≠ "mysql" then throw (.unsupported u.scheme)
  let o ← Options.ofParameters u.parameters
  let port := (u.authority.bind Url.Authority.port).getD defaultPort
  return if o.encrypted then none
    else some ((o.socket.map Endpoint.ofPath).getD (.port host.text port))

/-- The endpoint that settings name; a URL comes before a host. -/
def endpoint? (s : DatabaseSettings) : Except AddressFault (Option Endpoint) :=
  match s.url, s.host with
  | some url, _ => endpointOfUrl? url
  | none, some host => .ok (some (.port host ((s.port.map UInt16.toNat).getD defaultPort)))
  | none, none => .error .missing

end TableService.Server.MySql
