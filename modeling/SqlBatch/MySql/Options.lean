import SqlBatch.Failure
import SqlBatch.Text.Excerpt
import SqlBatch.Url.Basic
/- The options that the address of a MySQL server may carry after its question
   mark, each a name and a value.
   Correspondence:
     `MySQLConnection::connect` ↔ `connectCheck`, as far as the address decides
     `Opts::from_url`           ↔ `checkAddress` -/
namespace SqlBatch.MySql

/-- What the value of an option has to be. -/
inductive OptionKind where
  /-- `true` or `false`. -/
  | flag
  /-- A natural number of 64 bits. -/
  | natural64
  /-- A natural number of 32 bits. -/
  | natural32
  /-- The strength of the compression. -/
  | compression
  | anything
  deriving DecidableEq, Repr

/-- The options and what their values have to be. -/
def optionKinds : List (String × OptionKind) :=
  [("pool_min", .natural64), ("pool_max", .natural64), ("inactive_connection_ttl", .natural64),
   ("ttl_check_interval", .natural64), ("conn_ttl", .natural64), ("abs_conn_ttl", .natural64),
   ("abs_conn_ttl_jitter", .natural64), ("tcp_keepalive", .natural32),
   ("max_allowed_packet", .natural64), ("wait_timeout", .natural64),
   ("stmt_cache_size", .natural64), ("enable_cleartext_plugin", .flag),
   ("reset_connection", .flag), ("tcp_nodelay", .flag), ("prefer_socket", .flag),
   ("secure_auth", .flag), ("client_found_rows", .flag), ("require_ssl", .flag),
   ("verify_ca", .flag), ("verify_identity", .flag), ("built_in_roots", .flag),
   ("compression", .compression), ("socket", .anything)]

/-- The natural number of a text of digits, which may have a plus before them. -/
def natural? (limit : Nat) (value : String) : Option Nat :=
  let ds :=
    match value.toList with
    | '+' :: ds => ds
    | ds => ds
  if ds = [] then none else Decimal.natUpTo? limit ds

/-- The value is one that the option takes. -/
def OptionKind.accepts : OptionKind → String → Bool
  | .flag, value => value = "true" || value = "false"
  | .natural64, value => (natural? (UInt64.size - 1) value).isSome
  | .natural32, value => (natural? (UInt32.size - 1) value).isSome
  | .compression, value =>
    ["fast", "on", "true", "best"].contains value
      || (value.length = 1 && value.toList.all Decimal.isDigit)
  | .anything, _ => true

/-- The text of a name or a value: plus signs are blanks, and encoded bytes are decoded. -/
def plainText (cs : List Char) : String :=
  Text.ofUtf8Lossy (Url.decode
    (Text.utf8 (String.ofList (cs.map fun c => if c = '+' then ' ' else c))))

/-- The names and values of a query. A part without an equals sign is a name without a value. -/
def queryPairs (query : List Char) : List (String × String) :=
  ((Text.splitOn '&' query).filter (· ≠ [])).map fun part =>
    (plainText (part.takeWhile (· ≠ '=')), plainText ((part.dropWhile (· ≠ '=')).drop 1))

/-- Why an address cannot be used. -/
inductive AddressError where
  | otherScheme
  | url (error : UrlError)
  | incomplete
  | unknownOption (name : String)
  | invalidValue (name value : String)
  | poolBounds (least most : Nat)
  deriving DecidableEq, Repr

/-- The fault in words. -/
def AddressError.message : AddressError → String
  | .otherScheme => "MySQL connection url must start with `mysql://`"
  | .url e => e.message
  | .incomplete => "Invalid or incomplete connection URL"
  | .unknownOption name => "Unknown connection URL parameter `" ++ name ++ "'"
  | .invalidValue name value =>
    "Invalid value `" ++ value ++ "' for connection URL parameter `" ++ name ++ "'"
  | .poolBounds least most =>
    "Invalid pool constraints: pool_min (" ++ toString least ++ ") > pool_max (" ++
      toString most ++ ")."

/-- The name by which an option is refused, which for a time is that of its milliseconds. -/
def refusedAs (name : String) : String :=
  if name = "tcp_keepalive" then "tcp_keepalive_ms" else name

/-- An option has a name that is known and a value that it takes. -/
def checkOption (pair : String × String) : Except AddressError Unit :=
  match optionKinds.lookup pair.1 with
  | none => .error (.unknownOption pair.1)
  | some kind =>
    if kind.accepts pair.2 then .ok () else .error (.invalidValue (refusedAs pair.1) pair.2)

/-- The last value given for a number, or what it is without one. -/
def numberOr (default : Nat) (name : String) (pairs : List (String × String)) : Nat :=
  let given := (pairs.filter fun p => p.1 = name).getLast?
  (given.bind fun p => natural? (UInt64.size - 1) p.2).getD default

/-- The address can be used. Its options are checked in order, and the bounds that they set on
    the number of connections last. -/
def checkAddress (text : String) : Except AddressError Unit := do
  unless "mysql://".toList.isPrefixOf text.toList do throw .otherScheme
  let url ← (Url.parse text).mapError .url
  unless url.hasHost do throw .incomplete
  let pairs := queryPairs (url.query.getD [])
  pairs.forM checkOption
  let least := numberOr 10 "pool_min" pairs
  let most := numberOr 100 "pool_max" pairs
  unless least ≤ most && 0 < most do throw (.poolBounds least most)

/-- The address can be used, or a connection to it fails before it is tried. -/
def connectCheck (text : String) : Except Failure Unit :=
  (checkAddress text).mapError fun e =>
    .during ("While trying to connect to `" ++ Text.excerpt text ++ "`") (.reported e.message)

end SqlBatch.MySql
