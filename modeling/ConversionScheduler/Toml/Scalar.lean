import ConversionScheduler.Time.Calendar
import ConversionScheduler.Toml.Value
/-!
# Numbers, dates and words of TOML

A scalar that is not in quotes is a token without blanks. It is cut off first and judged as a whole.

## Main definitions

* `Toml.Scalar.integer?`, `Toml.Scalar.float?`, `Toml.Scalar.datetime?` — the kinds of tokens.
* `Toml.Scalar.ofToken?` — the value of a token.
-/

namespace ConversionScheduler

/-- The double nearest to `± digits · 10 ^ exponent`, unless it is beyond the largest one. -/
def Double.ofDecimal? (negative : Bool) (digits : Nat) (exponent : Int) : Option Double :=
  let magnitude : Int := (Decimal.digits digits).length + exponent
  if digits = 0 ∨ magnitude < -400 then some (Double.zero negative)
  else if 400 < magnitude then none
  else
    let f := Float.ofScientific digits (exponent < 0) exponent.natAbs
    if f.isInf then none else some (Double.ofFloat (if negative then -f else f))

namespace Toml.Scalar

/-- Digits for which `p` holds, with single underscores between them, without these. -/
def grouped? (p : Char → Bool) : List Char → Option (List Char)
  | [] => none
  | [c] => if p c then some [c] else none
  | c :: '_' :: rest => if p c then (grouped? p rest).map (c :: ·) else none
  | c :: rest => if p c then (grouped? p rest).map (c :: ·) else none

/-- The value of a hexadecimal digit. -/
def digitValue (c : Char) : Nat :=
  if 'a' ≤ c then c.toNat - 87 else if 'A' ≤ c then c.toNat - 55 else c.toNat - 48

/-- Whether `c` is a hexadecimal digit. -/
def isHexDigit (c : Char) : Bool :=
  Decimal.isDigit c || ('a' ≤ c && c ≤ 'f') || ('A' ≤ c && c ≤ 'F')

/-- Digits of a base behind a mark. -/
def based? (base : Nat) (p : Char → Bool) (cs : List Char) : Option Int :=
  (grouped? p cs).map fun ds => Int.ofNat (ds.foldl (fun n c => n * base + digitValue c) 0)

/-- A decimal integer without a sign. It has no zero in front. -/
def decimal? (cs : List Char) : Option Nat :=
  match grouped? Decimal.isDigit cs with
  | some ('0' :: _ :: _) => none
  | ds => ds.map Decimal.ofDigits

/-- The integers that can be read: those of 128 bits, with or without a sign. -/
def inRange (n : Int) : Bool :=
  -170141183460469231731687303715884105728 ≤ n && n < 340282366920938463463374607431768211456

/-- An integer. -/
def integer? (cs : List Char) : Option Int :=
  let n := match cs with
    | '0' :: 'x' :: rest => based? 16 isHexDigit rest
    | '0' :: 'o' :: rest => based? 8 (fun c => '0' ≤ c && c ≤ '7') rest
    | '0' :: 'b' :: rest => based? 2 (fun c => c = '0' || c = '1') rest
    | '+' :: rest => (decimal? rest).map Int.ofNat
    | '-' :: rest => (decimal? rest).map fun n => -(Int.ofNat n)
    | rest => (decimal? rest).map Int.ofNat
  n.filter inRange

/-- The exponent of a float, behind its letter. -/
def exponent? (cs : List Char) : Option Int :=
  match cs with
  | '+' :: rest => (grouped? Decimal.isDigit rest).map fun ds => Int.ofNat (Decimal.ofDigits ds)
  | '-' :: rest => (grouped? Decimal.isDigit rest).map fun ds => -(Int.ofNat (Decimal.ofDigits ds))
  | rest => (grouped? Decimal.isDigit rest).map fun ds => Int.ofNat (Decimal.ofDigits ds)

/-- Splits at the first character that satisfies `p`, which is dropped. -/
def splitOnce (p : Char → Bool) (cs : List Char) : List Char × Option (List Char) :=
  match cs.dropWhile fun c => !p c with
  | [] => (cs, none)
  | _ :: rest => (cs.takeWhile fun c => !p c, some rest)

/-- A float without a sign, in words or digits. -/
def unsignedFloat? (negative : Bool) (cs : List Char) : Option Double :=
  if cs = ['i', 'n', 'f'] then
    some ⟨if negative then 0xFFF0000000000000 else 0x7FF0000000000000⟩
  else if cs = ['n', 'a', 'n'] then
    some ⟨if negative then 0xFFF8000000000000 else 0x7FF8000000000000⟩
  else
    let (mantissa, power) := splitOnce (fun c => c = 'e' || c = 'E') cs
    let (whole, fraction) := splitOnce (· = '.') mantissa
    if power.isNone && fraction.isNone then none
    else do
      let n ← decimal? whole
      let ds ← match fraction with
        | none => some []
        | some f => grouped? Decimal.isDigit f
      let e ← match power with
        | none => some 0
        | some p => exponent? p
      Double.ofDecimal? negative (n * Nat.pow 10 ds.length + Decimal.ofDigits ds) (e - ds.length)

/-- A float. -/
def float? (cs : List Char) : Option Double :=
  match cs with
  | '+' :: rest => unsignedFloat? false rest
  | '-' :: rest => unsignedFloat? true rest
  | rest => unsignedFloat? false rest

/-! ## Dates and times -/

/-- Reads a number of exactly `width` digits. -/
def fixed? (width : Nat) (cs : List Char) : Option (Nat × List Char) :=
  let ds := cs.take width
  if ds.length = width ∧ ds.all Decimal.isDigit then some (Decimal.ofDigits ds, cs.drop width)
  else none

/-- Reads a given character. -/
def mark? (c : Char) : List Char → Option (List Char)
  | c' :: rest => if c' = c then some rest else none
  | [] => none

/-- A date, its text, and what follows it. -/
def date? (cs : List Char) : Option (List Char × List Char) := do
  let (y, rest) ← fixed? 4 cs
  let (m, rest) ← fixed? 2 (← mark? '-' rest)
  let (d, rest) ← fixed? 2 (← mark? '-' rest)
  if Date.isValid ⟨y, m, d⟩ then
    some (Decimal.pad 4 y ++ '-' :: Decimal.pad 2 m ++ '-' :: Decimal.pad 2 d, rest)
  else none

/-- The fraction of a second: nine digits at most count, and no zeros at the end but the first
digit. -/
def fraction? (cs : List Char) : Option (List Char × List Char) :=
  match cs with
  | '.' :: rest =>
    let (ds, rest') := Decimal.takeDigits rest
    if ds.isEmpty then none
    else
      let kept := ((ds.take 9).reverse.dropWhile (· = '0')).reverse
      some ('.' :: (if kept.isEmpty then ['0'] else kept), rest')
  | _ => some ([], cs)

/-- A time of the day, its text, and what follows it. The seconds may be left out. -/
def time? (cs : List Char) : Option (List Char × List Char) := do
  let (h, rest) ← fixed? 2 cs
  let (m, rest) ← fixed? 2 (← mark? ':' rest)
  if 24 ≤ h ∨ 60 ≤ m then none
  let front := Decimal.pad 2 h ++ ':' :: Decimal.pad 2 m
  match rest with
  | ':' :: rest =>
    let (s, rest) ← fixed? 2 rest
    if 60 < s then none
    let (f, rest) ← fraction? rest
    some (front ++ ':' :: Decimal.pad 2 s ++ f, rest)
  | _ => some (front, rest)

/-- The text of an offset from universal time. An offset of zero has a plus in front. -/
def offset? (cs : List Char) : Option (List Char) :=
  match cs with
  | [] => some []
  | ['Z'] => some ['Z']
  | ['z'] => some ['Z']
  | sign :: rest =>
    if sign = '+' ∨ sign = '-' then do
      let (h, rest) ← fixed? 2 rest
      let (m, rest) ← fixed? 2 (← mark? ':' rest)
      if 24 ≤ h ∨ 60 ≤ m ∨ !rest.isEmpty then none
      let sign' := if h = 0 ∧ m = 0 then '+' else sign
      some (sign' :: Decimal.pad 2 h ++ ':' :: Decimal.pad 2 m)
    else none

/-- A date, a time, or both, as its text. -/
def datetime? (cs : List Char) : Option (List Char) :=
  match date? cs with
  | some (d, []) => some d
  | some (d, c :: rest) =>
    if c = 'T' ∨ c = 't' ∨ c = ' ' then
      match time? rest with
      | some (t, rest') => (offset? rest').map fun o => d ++ 'T' :: t ++ o
      | none => none
    else none
  | none =>
    match time? cs with
    | some (t, []) => some t
    | _ => none

/-! ## Tokens -/

/-- Whether a character ends a token. -/
def endsToken (c : Char) : Bool :=
  [' ', '\t', '\n', '\r', ',', ']', '\x7d', '#'].contains c

/-- Cuts off a token. A blank between a date and a time belongs to it. -/
def takeToken (cs : List Char) : List Char × List Char :=
  let word (cs : List Char) : List Char × List Char :=
    (cs.takeWhile fun c => !endsToken c, cs.dropWhile fun c => !endsToken c)
  let (front, rest) := word cs
  match date? front, rest with
  | some (_, []), ' ' :: a :: rest' =>
    if Decimal.isDigit a then
      let (back, rest'') := word (a :: rest')
      (front ++ ' ' :: back, rest'')
    else (front, rest)
  | _, _ => (front, rest)

/-- The value of a token. -/
def ofToken? (cs : List Char) : Option Value :=
  if cs = "true".toList then some (.boolean true)
  else if cs = "false".toList then some (.boolean false)
  else
    match integer? cs with
    | some n => some (.integer n)
    | none =>
      match float? cs with
      | some d => some (.float d)
      | none => (datetime? cs).map fun t => .datetime (String.ofList t)

end Toml.Scalar

end ConversionScheduler
