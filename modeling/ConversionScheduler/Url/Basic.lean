import ConversionScheduler.Url.Host
/-!
# URLs of workers

## Main definitions

* `Url`, `Url.text` — a URL and its written form.
* `Url.ofAddress?` — the URL of a worker's address, which need not name a scheme.
* `Url.append` — a URL with further segments.
-/

namespace ConversionScheduler

/-- The ways to talk to a worker. -/
inductive Url.Scheme
  | http
  | https
deriving DecidableEq

/-- A URL. The segments of its path, its query and its fragment are kept as they are written. -/
structure Url where
  scheme : Url.Scheme
  /-- What names the user, with its mark, if it stays in the URL. -/
  user : List Char
  host : Host
  /-- The port, unless it is the scheme's own. -/
  port : Option Nat
  segments : List (List Char)
  query : Option (List Char)
  fragment : Option (List Char)
deriving DecidableEq

namespace Url

/-- The word for a scheme. -/
def Scheme.word : Scheme → String
  | .http => "http"
  | .https => "https"

/-- The port of a scheme. -/
def Scheme.port : Scheme → Nat
  | .http => 80
  | .https => 443

/-! ## Writing -/

/-- A part that may be missing, behind its mark. -/
def optionalChars (mark : Char) : Option (List Char) → List Char
  | none => []
  | some cs => mark :: cs

/-- The path. -/
def pathChars (u : Url) : List Char := u.segments.flatMap ('/' :: ·)

/-- The characters of a URL in front of the host. -/
def schemeChars (u : Url) : List Char := u.scheme.word.toList ++ [':', '/', '/']

/-- The characters of a URL from the host to the query. -/
def placeChars (u : Url) : List Char :=
  u.host.chars ++ optionalChars ':' (u.port.map Decimal.digits) ++ u.pathChars ++
    optionalChars '?' u.query

/-- The text of a URL without its user and its fragment, as a request carries it. -/
def requestText (u : Url) : String := String.ofList (u.schemeChars ++ u.placeChars)

/-- The text of a URL. -/
def text (u : Url) : String :=
  String.ofList (u.schemeChars ++ u.user ++ u.placeChars ++ optionalChars '#' u.fragment)

/-- The longest URL that a request may carry, in octets. -/
def maxLength : Nat := 65534

/-- Whether a request to the URL can be put together. -/
def isSendable (u : Url) : Bool := u.host.isSendable && u.text.utf8ByteSize ≤ maxLength

/-! ## Paths -/

/-- A segment that stands for the place where it is. -/
def isDot (cs : List Char) : Bool :=
  [['.'], ['%', '2', 'e'], ['%', '2', 'E']].contains cs

/-- A segment that stands for the place above. -/
def isDoubleDot (cs : List Char) : Bool :=
  match cs with
  | '.' :: rest => isDot rest
  | '%' :: '2' :: c :: rest => (c = 'e' || c = 'E') && isDot rest
  | _ => false

/-- A segment that is never left by going up: a letter and a colon or a bar. -/
def isDrive (cs : List Char) : Bool :=
  match cs with
  | [a, b] => a.isAlpha && (b = ':' || b = '|')
  | _ => false

/-- Leaves the last segment. -/
def goUp (front : List (List Char)) : List (List Char) :=
  match front.getLast? with
  | none => []
  | some segment => if isDrive segment then front else front.dropLast

/-- Adds segments to those in front. Dots are followed instead of added; a path that ends in them
ends in an empty segment. -/
def walk (front : List (List Char)) : List (List Char) → List (List Char)
  | [] => front
  | segment :: rest =>
    let front' :=
      if isDoubleDot segment then goUp front
      else if isDot segment then front
      else front ++ [segment]
    if rest.isEmpty && (isDoubleDot segment || isDot segment) then front' ++ [[]]
    else walk front' rest

/-! ## Reading -/

/-- What is cut off at both ends of a text. -/
def isOuter (c : Char) : Bool := c.toNat ≤ 0x20

/-- What is passed over wherever it stands. -/
def isSkipped (c : Char) : Bool := c = '\t' || c = '\n' || c = '\r'

/-- The characters of a text that count. -/
def counting (cs : List Char) : List Char :=
  let front := cs.dropWhile isOuter
  (front.reverse.dropWhile isOuter).reverse.filter fun c => !isSkipped c

/-- Whether a character ends the part of a URL that names the host. -/
def endsAuthority (c : Char) : Bool := c = '/' || c = '\\' || c = '?' || c = '#'

/-- Splits a text before the first character that satisfies `p`. -/
def splitBefore (p : Char → Bool) (cs : List Char) : List Char × List Char :=
  (cs.takeWhile fun c => !p c, cs.dropWhile fun c => !p c)

/-- Drops what stands in front of the last `@`. -/
def dropUser (cs : List Char) : List Char := (cs.reverse.takeWhile (· ≠ '@')).reverse

/-- The name and the password in front of the last `@`, as they are written in a URL. -/
def credentials (cs : List Char) : List Char × List Char :=
  let (name, password) := splitBefore (· = ':') (cs.reverse.dropWhile (· ≠ '@')).reverse.dropLast
  (Percent.encode Percent.inUser name, Percent.encode Percent.inUser (password.drop 1))

/-- Whether a part stands for octets that are text. -/
def isText (cs : List Char) : Bool := (Utf8.glyphs (Percent.decode cs)).all Option.isSome

/-- What stays in a URL of the part that names the user. A user who can be told to the server goes
into the head of the request instead. -/
def remainingUser (cs : List Char) : List Char :=
  let (name, password) := credentials cs
  if !isText name || (name.isEmpty && !isText password) then
    name ++ (if password.isEmpty then [] else ':' :: password) ++ ['@']
  else []

/-- The host and what follows it. A colon ends it, except within brackets. -/
def splitHost : Bool → List Char → List Char × List Char
  | _, [] => ([], [])
  | inside, c :: rest =>
    if c = ':' ∧ !inside then ([], c :: rest)
    else
      let (host, rest') := splitHost (c = '[' || (inside && c ≠ ']')) rest
      (c :: host, rest')

/-- The port behind a colon: digits, or nothing. -/
def port? (scheme : Scheme) : List Char → Except Fault (Option Nat)
  | [] => .ok none
  | ':' :: ds =>
    if ds.all Decimal.isDigit ∧ Decimal.ofDigits ds ≤ 65535 then
      let port := Decimal.ofDigits ds
      .ok (if ds.isEmpty || port = scheme.port then none else some port)
    else .error .invalidPort
  | _ => .error .invalidPort

/-- The segments of a path that begins after the host. -/
def path (cs : List Char) : List (List Char) :=
  let rest := match cs with
    | '/' :: rest => rest
    | '\\' :: rest => rest
    | _ => cs
  walk [] ((Domain.splitAt '/' (rest.map fun c => if c = '\\' then '/' else c)).map
    (Percent.encode Percent.inPath))

/-- The URL of what follows the scheme. -/
def ofRest? (scheme : Scheme) (cs : List Char) : Except Fault Url := do
  let (authority, rest) := splitBefore endsAuthority (cs.dropWhile fun c => c = '/' || c = '\\')
  let (hostChars, portChars) := splitHost false (dropUser authority)
  if hostChars.isEmpty then throw .emptyHost
  let host ← Host.ofChars? hostChars
  let port ← port? scheme portChars
  let (beforeFragment, fragment) := splitBefore (· = '#') rest
  let (pathChars, query) := splitBefore (· = '?') beforeFragment
  let marked (reserved : Char → Bool) : List Char → Option (List Char)
    | [] => none
    | _ :: cs => some (Percent.encode reserved cs)
  return ⟨scheme, remainingUser authority, host, port, path pathChars, marked Percent.inQuery query,
    marked Percent.inFragment fragment⟩

/-- The URL of a worker's address. Without a scheme it is taken for `http`; with one, slashes at
its end do not count. -/
def ofAddress? (addr : String) : Except Fault Url :=
  let cs := addr.toList
  let bare := (cs.reverse.dropWhile (· = '/')).reverse
  if "https://".toList.isPrefixOf cs then ofRest? .https ((counting bare).drop 6)
  else if "http://".toList.isPrefixOf cs then ofRest? .http ((counting bare).drop 5)
  else ofRest? .http (counting ('/' :: '/' :: cs))

/-! ## Further segments -/

/-- The segments of a path to which others can be added: an empty one at the end does not count,
unless it is the only one. -/
def openEnd (segments : List (List Char)) : List (List Char) :=
  if segments.length > 1 ∧ segments.getLast? = some [] then segments.dropLast else segments

/-- Adds one segment. It replaces an empty one if that is all there is. -/
def push (segments : List (List Char)) (segment : List Char) : List (List Char) :=
  let front := if segments = [[]] then [] else segments
  let segment := Percent.encode Percent.inSegment (segment.filter fun c => !isSkipped c)
  walk front [segment]

/-- A URL with further segments. Dots alone are left out. -/
def append (u : Url) (segments : List String) : Url :=
  let added := (segments.map String.toList).filter fun cs => cs ≠ ['.'] && cs ≠ ['.', '.']
  { u with segments := added.foldl push (openEnd u.segments) }

end Url

end ConversionScheduler
