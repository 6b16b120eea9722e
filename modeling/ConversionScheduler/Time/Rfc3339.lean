import ConversionScheduler.Text.Blank
import ConversionScheduler.Time.Calendar
import ConversionScheduler.Time.Timestamp
/-!
# Points in time as text

RFC 3339, written in universal time with as many groups of three decimal places as are needed, and
read with some freedom: any offset, blanks around the parts, few or many digits.

## Main definitions

* `Timestamp.text` — the written form.
* `Timestamp.ofString?` — the point in time of a text.
-/

namespace ConversionScheduler.Timestamp

/-! ## Writing -/

/-- A year. Outside the years 0 to 9999 it has a sign. -/
def yearText (y : Int) : List Char :=
  if 0 ≤ y ∧ y ≤ 9999 then Decimal.pad 4 y.toNat
  else (if 0 ≤ y then '+' else '-') :: Decimal.pad 4 y.natAbs

/-- A fraction of a second: nothing, milliseconds, microseconds or nanoseconds. -/
def fractionText (nanos : Nat) : List Char :=
  if nanos = 0 then []
  else if nanos % 1000000 = 0 then '.' :: Decimal.pad 3 (nanos / 1000000)
  else if nanos % 1000 = 0 then '.' :: Decimal.pad 6 (nanos / 1000)
  else '.' :: Decimal.pad 9 nanos

/-- The characters of a point in time. A leap second is the 60th of its minute. -/
def chars (t : Timestamp) : List Char :=
  let d := Date.ofDays t.dayNumber
  let s := t.secondOfDay.toNat
  let leap := if 1000000000 ≤ t.nanos then 1 else 0
  yearText d.year ++ '-' :: Decimal.pad 2 d.month ++ '-' :: Decimal.pad 2 d.day ++
    'T' :: Decimal.pad 2 (s / 3600) ++ ':' :: Decimal.pad 2 (s / 60 % 60) ++
    ':' :: Decimal.pad 2 (s % 60 + leap) ++ fractionText (t.nanos - leap * 1000000000) ++ ['Z']

/-- The text of a point in time. -/
def text (t : Timestamp) : String := String.ofList t.chars

/-! ## Reading -/

/-- At least one and at most `width` digits. -/
def number? (width : Nat) (s : List Char) : Option (Nat × List Char) :=
  let ds := (s.take width).takeWhile Decimal.isDigit
  if ds.isEmpty then none else some (Decimal.ofDigits ds, s.drop ds.length)

/-- A number in front of which blanks are dropped. -/
def field? (width : Nat) (s : List Char) : Option (Nat × List Char) := number? width (trimStart s)

/-- Digits without a limit to their number, up to what 63 bits hold. -/
def longNumber? (s : List Char) : Option (Nat × List Char) :=
  match number? s.length s with
  | some (n, rest) => if n < 9223372036854775808 then some (n, rest) else none
  | none => none

/-- A year: up to four digits, or a sign and any number of them. -/
def year? (s : List Char) : Option (Int × List Char) :=
  match trimStart s with
  | '-' :: rest => (longNumber? rest).map fun r => (-(r.1 : Int), r.2)
  | '+' :: rest => (longNumber? rest).map fun r => ((r.1 : Int), r.2)
  | rest => (number? 4 rest).map fun r => ((r.1 : Int), r.2)

/-- Drops a given character and the blanks in front of it. -/
def mark? (c : Char) (s : List Char) : Option (List Char) :=
  match trimStart s with
  | c' :: rest => if c' = c then some rest else none
  | [] => none

/-- The fraction of a second, in nanoseconds. Digits after the ninth are dropped. -/
def fraction? : List Char → Option (Nat × List Char)
  | '.' :: rest =>
    match number? 9 rest with
    | none => none
    | some (n, rest') =>
      let places := rest.length - rest'.length
      some (n * Nat.pow 10 (9 - places), rest'.dropWhile Decimal.isDigit)
  | s => some (0, s)

/-- Two digits. -/
def twoDigits? : List Char → Option (Nat × List Char)
  | a :: b :: rest =>
    if Decimal.isDigit a ∧ Decimal.isDigit b then some (Decimal.ofDigits [a, b], rest) else none
  | _ => none

/-- An offset of hours and minutes behind its sign, in seconds. -/
def hoursAndMinutes? (s : List Char) : Option (Int × List Char) := do
  let (h, rest) ← twoDigits? s
  let (m, rest) ← twoDigits? (rest.dropWhile fun c => c = ':' || isBlank c)
  if m < 60 ∧ h < 24 then some ((h * 3600 + m * 60 : Nat), rest) else none

/-- The offset from universal time in seconds. -/
def offset? : List Char → Option (Int × List Char)
  | [] => none
  | a :: rest =>
    match (a :: rest).take 3 |>.map Char.toUpper, rest with
    | ['U', 'T', 'C'], _ :: _ :: rest' => some (0, rest')
    | _, _ =>
      if a = 'Z' ∨ a = 'z' then some (0, rest)
      else if a = '+' then hoursAndMinutes? rest
      else if a = '-' ∨ a = '\u2212' then (hoursAndMinutes? rest).map fun r => (-r.1, r.2)
      else none

/-- The point in time of its parts. The 60th second of a minute is a leap second. -/
def ofFields? (d : Date) (hour minute second nanos : Nat) (offset : Int) : Option Timestamp :=
  if d.isValid ∧ -262143 ≤ d.year ∧ d.year ≤ 262142 ∧ hour < 24 ∧ minute < 60 ∧ second ≤ 60 then
    let leap := if second = 60 then 1 else 0
    let secondOfDay : Nat := hour * 3600 + minute * 60 + (second - leap)
    ofParts? (d.toDays * 86400 + secondOfDay - offset) (nanos + leap * 1000000000)
  else none

/-- The point in time of a text. -/
def ofChars? (s : List Char) : Option Timestamp := do
  let (year, s) ← year? s
  let (month, s) ← field? 2 (← mark? '-' s)
  let (day, s) ← field? 2 (← mark? '-' s)
  let s ← match s with
    | c :: rest => if c = 'T' ∨ c = 't' ∨ c = ' ' then some rest else none
    | [] => none
  let (hour, s) ← field? 2 s
  let (minute, s) ← field? 2 (← mark? ':' s)
  let (second, s) ← field? 2 (← mark? ':' s)
  let (nanos, s) ← fraction? s
  let (offset, s) ← offset? (trimStart s)
  if (trimStart s).isEmpty then ofFields? ⟨year, month, day⟩ hour minute second nanos offset
  else none

/-- The point in time of a text. -/
def ofString? (s : String) : Option Timestamp := ofChars? s.toList

end ConversionScheduler.Timestamp
