import ConversionScheduler.Domain.Name
import ConversionScheduler.Url.Fault
import ConversionScheduler.Url.Percent
/-!
# Hosts

The host of a URL is a domain name or an address of one of the two internet protocols. Whatever
ends in a number has to be an address.

## Main definitions

* `Host`, `Host.text` — hosts and their written form.
* `Host.ofChars?` — the host of a text.
-/

namespace ConversionScheduler

/-- The host of a URL. -/
inductive Host
  | domain (name : List Char)
  /-- The address as a number of 32 bits. -/
  | ipv4 (address : Nat)
  /-- The address as eight numbers of 16 bits. -/
  | ipv6 (pieces : List Nat)
deriving DecidableEq

namespace Host

open Domain (splitAt)

/-! ## Version 4 addresses -/

/-- Digits of a base up to 16, if that is what they are. -/
def digitsIn? (base : Nat) (cs : List Char) : Option Nat :=
  cs.foldlM (fun n c => (Percent.hexValue? c).bind fun d =>
    if d < base then some (n * base + d) else none) 0

/-- A part of an address: decimal, or octal behind a zero, or hexadecimal behind `0x`. -/
def part? : List Char → Option Nat
  | [] => none
  | '0' :: 'x' :: rest => digitsIn? 16 rest
  | '0' :: 'X' :: rest => digitsIn? 16 rest
  | '0' :: c :: rest => digitsIn? 8 (c :: rest)
  | cs => digitsIn? 10 cs

/-- The parts of a name. A dot at the end does not count. -/
def nameParts (name : List Char) : List (List Char) :=
  let parts := splitAt '.' name
  if parts.getLast? = some [] then parts.dropLast else parts

/-- Whether the last part of a name is a number. -/
def endsInNumber (name : List Char) : Bool :=
  match (nameParts name).getLast? with
  | none => false
  | some part => !part.isEmpty && (part.all Decimal.isDigit || (part? part).isSome)

/-- The address of a name. All parts but the last stand for one octet each, the last for the
others. -/
def ipv4? (name : List Char) : Option Nat := do
  let parts := nameParts name
  let numbers ← parts.mapM part?
  let last ← numbers.getLast?
  let first := numbers.dropLast
  if parts.length ≤ 4 ∧ first.all (· < 256) ∧ last < Nat.pow 256 (4 - first.length) then
    some ((first.foldl (fun n m => n * 256 + m) 0) * Nat.pow 256 (4 - first.length) + last)
  else none

/-- The four octets of an address, with dots between them. -/
def ipv4Chars (n : Nat) : List Char :=
  Decimal.digits (n / 16777216 % 256) ++ '.' :: Decimal.digits (n / 65536 % 256) ++
    '.' :: Decimal.digits (n / 256 % 256) ++ '.' :: Decimal.digits (n % 256)

/-! ## Version 6 addresses -/

/-- Four decimal numbers below 256 without leading zeros, as two pieces. -/
def embedded? (cs : List Char) : Option (List Nat) := do
  let numbers ← (splitAt '.' cs).mapM fun part =>
    if part.isEmpty || (part.length > 1 && part.head? = some '0') then none else digitsIn? 10 part
  match numbers with
  | [a, b, c, d] =>
    if a < 256 ∧ b < 256 ∧ c < 256 ∧ d < 256 then some [a * 256 + b, c * 256 + d] else none
  | _ => none

/-- The pieces between colons. The last one may be an embedded version 4 address. -/
def pieces? : List (List Char) → Option (List Nat)
  | [] => some []
  | part :: rest =>
    if rest.isEmpty && part.contains '.' then embedded? part
    else if part.isEmpty || 4 < part.length then none
    else
      match digitsIn? 16 part, pieces? rest with
      | some n, some ns => some (n :: ns)
      | _, _ => none

/-- The pieces of a text with colons between them; an empty text has none. -/
def piecesOf? (cs : List Char) : Option (List Nat) :=
  if cs.isEmpty then some [] else pieces? (splitAt ':' cs)

/-- Splits a text at the first two colons that stand together. -/
def splitGap : List Char → List Char × Option (List Char)
  | ':' :: ':' :: rest => ([], some rest)
  | [] => ([], none)
  | c :: rest =>
    let (front, back) := splitGap rest
    (c :: front, back)

/-- The eight pieces of an address. Two colons stand for one or more pieces that are zero. -/
def ipv6? (cs : List Char) : Option (List Nat) :=
  match splitGap cs with
  | (front, none) => (pieces? (splitAt ':' front)).filter (·.length = 8)
  | (front, some back) =>
    if front.contains '.' then none
    else
      match piecesOf? front, piecesOf? back with
      | some a, some b =>
        if a.length + b.length < 8 then
          some (a ++ List.replicate (8 - a.length - b.length) 0 ++ b)
        else none
      | _, _ => none

/-- The number of zeros in front. -/
def zeros (ns : List Nat) : Nat := (ns.takeWhile (· = 0)).length

/-- The first of the longest runs of zeros: where it starts and how long it is. -/
def longestRun (ns : List Nat) : Nat × Nat :=
  (List.range ns.length).foldl
    (fun best i => if best.2 < zeros (ns.drop i) then (i, zeros (ns.drop i)) else best) (0, 0)

/-- The hexadecimal digits of a piece. -/
def hexDigits (n : Nat) : List Char := Nat.toDigits 16 n

/-- An address in brackets, the longest run of two or more zeros left out. -/
def ipv6Chars (ns : List Nat) : List Char :=
  let (start, length) := longestRun ns
  let join (ps : List Nat) : List Char := [':'].intercalate (ps.map hexDigits)
  '[' :: (if 2 ≤ length then join (ns.take start) ++ ':' :: ':' :: join (ns.drop (start + length))
    else join ns) ++ [']']

/-! ## Hosts -/

/-- The characters of the octets, if they are UTF-8. -/
def utf8? (octets : List UInt8) : Option (List Char) := (Utf8.glyphs octets).mapM id

/-- The host of a text that is not empty. -/
def ofChars? (cs : List Char) : Except Url.Fault Host :=
  match cs with
  | '[' :: rest =>
    if rest.getLast? = some ']' then
      match ipv6? rest.dropLast with
      | some pieces => .ok (.ipv6 pieces)
      | none => .error .invalidIpv6
    else .error .invalidIpv6
  | _ =>
    match (utf8? (Percent.decode cs)).bind Domain.toAscii? with
    | none => .error .invalidDomain
    | some [] => .error .emptyHost
    | some name =>
      if endsInNumber name then
        match ipv4? name with
        | some address => .ok (.ipv4 address)
        | none => .error .invalidIpv4
      else .ok (.domain name)

/-- The characters of a host. -/
def chars : Host → List Char
  | .domain name => name
  | .ipv4 address => ipv4Chars address
  | .ipv6 pieces => ipv6Chars pieces

/-- Whether the host can be named in a request. -/
def isSendable : Host → Bool
  | .domain name => !name.any fun c => ['"', '\x60', '\x7b', '\x7d'].contains c
  | _ => true

end Host

end ConversionScheduler
