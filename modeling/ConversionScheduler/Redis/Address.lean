import ConversionScheduler.Url.Basic
/-!
# Addresses of Redis servers

## Main definitions

* `Redis.isAddress` — whether a text names a server that can be connected to.
-/

namespace ConversionScheduler.Redis

/-- The characters that no host name may hold. -/
def isForbiddenInHost (c : Char) : Bool :=
  [' ', '#', '/', ':', '<', '>', '?', '@', '[', '\\', ']', '^', '|', '\x00'].contains c

/-- Whether a host is a name or an address in brackets. -/
def isHost : List Char → Bool
  | [] => false
  | '[' :: rest => rest.getLast? = some ']' && (Host.ipv6? rest.dropLast).isSome
  | cs => !cs.any isForbiddenInHost

/-- Whether a port is missing, or digits of a number of 16 bits behind a colon. -/
def isPort : List Char → Bool
  | [] => true
  | ':' :: ds => ds.all Decimal.isDigit && Decimal.ofDigits ds ≤ 65535
  | _ => false

/-- Whether a text is the number of a database: a number of 64 bits with a sign. -/
def isNumber (cs : List Char) : Bool :=
  let isBelow (bound : Nat) (ds : List Char) : Bool :=
    !ds.isEmpty && ds.all Decimal.isDigit && Decimal.ofDigits ds < bound
  match cs with
  | '-' :: ds => isBelow 9223372036854775809 ds
  | '+' :: ds => isBelow 9223372036854775808 ds
  | ds => isBelow 9223372036854775808 ds

/-- A path with the dots in it followed, without the slashes at its ends. -/
def plainPath (path : List Char) : List Char :=
  let walked := ['/'].intercalate (Url.walk [] (Domain.splitAt '/' (path.drop 1)))
  ((walked.dropWhile (· = '/')).reverse.dropWhile (· = '/')).reverse

/-- Whether a path is empty or the number of a database. -/
def isDatabase (path : List Char) : Bool :=
  (plainPath path).isEmpty || isNumber (plainPath path)

/-- The name and the value of a part of a query. -/
def queryPair (cs : List Char) : String × String :=
  let (name, value) := Url.splitBefore (· = '=') cs
  let plain (cs : List Char) : String :=
    Utf8.lossy (Percent.decode (cs.map fun c => if c = '+' then ' ' else c))
  (plain name, plain (value.drop 1))

/-- The value that a query gives to a name. The last one counts. -/
def queryValue? (query : List Char) (name : String) : Option String :=
  ((Domain.splitAt '&' query).map queryPair).reverse.lookup name

/-- Whether a query names no version of the protocol but the two there are. -/
def isQuery (query : List Char) : Bool :=
  match queryValue? query "protocol" with
  | none => true
  | some v => ["2", "resp2", "3", "resp3"].contains v

/-- Whether the user, if there is one, can be told to the server. -/
def isUser (authority : List Char) : Bool :=
  let (name, password) := Url.credentials authority
  Url.isText name && Url.isText password

/-- The path and the query of what follows the host. A fragment does not count. -/
def splitPath (cs : List Char) : List Char × List Char :=
  let (path, query) := Url.splitBefore (· = '?') (Url.splitBefore (· = '#') cs).1
  (path, query.drop 1)

/-- Splits what follows two slashes at the end of the host and its port. -/
def splitAuthority (cs : List Char) : List Char × List Char :=
  Url.splitBefore (fun c => c = '/' || c = '?' || c = '#') cs

/-- Whether what follows the scheme names a server of the network. -/
def isPlace (cs : List Char) : Bool :=
  match cs with
  | '/' :: '/' :: rest =>
    let (authority, rest) := splitAuthority rest
    let (host, port) := Url.splitHost false (Url.dropUser authority)
    let (path, query) := splitPath rest
    isHost host && isPort port && isUser authority && isDatabase path && isQuery query
  | _ => false

/-- Whether the part of an address that names the host names this machine, or nothing. -/
def isHere (authority : List Char) : Bool :=
  let (host, port) := Url.splitHost false (Url.dropUser authority)
  let (name, password) := Url.credentials authority
  (host = "localhost".toList && isPort port) ||
    (host.isEmpty && port.isEmpty && name.isEmpty && password.isEmpty && authority ≠ ['@'])

/-- Whether what follows the scheme names a socket of this machine by its path from the root. -/
def isSocket (cs : List Char) : Bool :=
  let (isLocal, rest) := match cs with
    | '/' :: '/' :: rest =>
      let (authority, rest) := splitAuthority rest
      (isHere authority, rest)
    | _ => (true, cs)
  let (path, query) := splitPath rest
  isLocal && path.head? = some '/' && isQuery query &&
    (match queryValue? query "db" with
      | none => true
      | some v => isNumber v.toList)

/-- Whether a text names a server that can be connected to without encryption. -/
def isAddress (s : String) : Bool :=
  let (scheme, rest) := Url.splitBefore (· = ':') (Url.counting s.toList)
  let word := String.ofList (scheme.map Char.toLower)
  if ["redis", "valkey"].contains word then isPlace (rest.drop 1)
  else ["unix", "redis+unix", "valkey+unix"].contains word && isSocket (rest.drop 1)

end ConversionScheduler.Redis
