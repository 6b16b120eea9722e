import ConversionScheduler.Decimal.Digits
/-!
# Durations

Lengths of time in nanoseconds, and how they are written in messages.

## Main definitions

* `Duration`, `Duration.ofSeconds`, `Duration.ofMillis` — lengths of time.
* `Duration.wholeSeconds` — the seconds, rounded down.
* `Duration.text` — seconds with the digits that are needed: `5s`, `1.5s`, `20ms`.
-/

namespace ConversionScheduler

/-- A length of time in nanoseconds. -/
structure Duration where
  nanos : Nat
deriving DecidableEq, Inhabited

namespace Duration

/-- Whole seconds. -/
def ofSeconds (n : Nat) : Duration := ⟨n * 1000000000⟩

/-- Whole milliseconds. -/
def ofMillis (n : Nat) : Duration := ⟨n * 1000000⟩

/-- The seconds of a duration, rounded down. -/
def wholeSeconds (d : Duration) : Nat := d.nanos / 1000000000

/-- `n / 10 ^ places` with the places that are not trailing zeros. -/
def decimal (n places : Nat) : List Char :=
  let fraction := (Decimal.pad places (n % Nat.pow 10 places)).reverse.dropWhile (· = '0')
  Decimal.digits (n / Nat.pow 10 places) ++ if fraction.isEmpty then [] else '.' :: fraction.reverse

/-- A duration in the largest unit of which it holds one. -/
def text (d : Duration) : String :=
  if 1000000000 ≤ d.nanos then String.ofList (decimal d.nanos 9) ++ "s"
  else if 1000000 ≤ d.nanos then String.ofList (decimal d.nanos 6) ++ "ms"
  else if 1000 ≤ d.nanos then String.ofList (decimal d.nanos 3) ++ "µs"
  else Decimal.text d.nanos ++ "ns"

end Duration

end ConversionScheduler
