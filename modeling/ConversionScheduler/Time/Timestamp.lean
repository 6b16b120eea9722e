import ConversionScheduler.Time.Duration
/-!
# Points in time

A point in time is a second of universal time and a number of nanoseconds. The last second of a
minute may be followed by a leap second, which is written as nanoseconds from `10 ^ 9` on.

No other second is followed by one in universal time, and neither the clock nor a text that is read
gives such a time. A date type may let the nanoseconds of any second be set to `10 ^ 9` or more all
the same; what it then holds is left out here.

## Main definitions

* `Timestamp` — a point in time in the years from -262143 to 262142.
* `Timestamp.nanosSince` — the signed distance of two points in time.
* `Timestamp.olderThan` — whether more than a threshold has passed.
-/

namespace ConversionScheduler

/-- A point in time: `seconds` after 1970-01-01T00:00:00Z and `nanos` more. From `10 ^ 9` on these
are in a leap second, which only the last second of a minute can be followed by. -/
structure Timestamp where
  seconds : Int
  nanos : Nat
  nanos_lt : nanos < 1000000000 ∨ (nanos < 2000000000 ∧ seconds % 60 = 59)
  min_le : -8334601228800 ≤ seconds
  le_max : seconds ≤ 8210266876799
deriving DecidableEq

namespace Timestamp

/-- The point in time with the given parts, if there is one. -/
def ofParts? (seconds : Int) (nanos : Nat) : Option Timestamp :=
  if h : (nanos < 1000000000 ∨ (nanos < 2000000000 ∧ seconds % 60 = 59)) ∧
      -8334601228800 ≤ seconds ∧ seconds ≤ 8210266876799 then
    some ⟨seconds, nanos, h.1, h.2.1, h.2.2⟩
  else none

/-- 1970-01-01T00:00:00Z. -/
def epoch : Timestamp := ⟨0, 0, by decide, by decide, by decide⟩

/-- The beginning of 1970. -/
instance : Inhabited Timestamp := ⟨epoch⟩

/-- The number of the day. -/
def dayNumber (t : Timestamp) : Int := t.seconds / 86400

/-- The second of the day. -/
def secondOfDay (t : Timestamp) : Int := t.seconds % 86400

/-- The nanoseconds from `earlier` to `t`. A leap second counts when one of the two lies in it and
the other at a later second of its day. -/
def nanosSince (t earlier : Timestamp) : Int :=
  let leap : Int :=
    if earlier.secondOfDay < t.secondOfDay ∧ 1000000000 ≤ earlier.nanos then 1
    else if t.secondOfDay < earlier.secondOfDay ∧ 1000000000 ≤ t.nanos then -1
    else 0
  (t.seconds - earlier.seconds + leap) * 1000000000 + ((t.nanos : Int) - earlier.nanos)

/-- The longest threshold that ages are compared with: `2 ^ 63 - 1` milliseconds. -/
def maxThreshold : Nat := 9223372036854775807 * 1000000

/-- Whether more than `threshold` has passed from `t` to `now`. No age is above `maxThreshold`. -/
def olderThan (t now : Timestamp) (threshold : Duration) : Bool :=
  threshold.nanos ≤ maxThreshold && (threshold.nanos : Int) < now.nanosSince t

end Timestamp

end ConversionScheduler
