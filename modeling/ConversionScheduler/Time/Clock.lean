import ConversionScheduler.Time.Timestamp
/-!
# Clocks

A process has two clocks: one that tells the time, and one that counts from an arbitrary start and
never goes back.

## Main definitions

* `Clock` — the readings of both, and `Clock.advance`.
* `Clock.deadline?` — a reading of the second clock in the future, if it can hold one.
-/

namespace ConversionScheduler

/-- The readings of the two clocks. -/
structure Clock where
  wall : Timestamp
  uptime : Duration
deriving DecidableEq, Inhabited

namespace Clock

/-- The readings some time later. The first clock stops at the last time it can show. -/
def advance (c : Clock) (d : Duration) : Clock :=
  let nanos := c.wall.nanos + d.nanos
  let seconds := c.wall.seconds + (nanos / 1000000000 : Nat)
  ⟨(Timestamp.ofParts? seconds (nanos % 1000000000)).getD c.wall, ⟨c.uptime.nanos + d.nanos⟩⟩

/-- The reading of the second clock after `d`. It counts whole seconds in 63 bits. -/
def deadline? (c : Clock) (d : Duration) : Option Duration :=
  let t : Duration := ⟨c.uptime.nanos + d.nanos⟩
  if t.wholeSeconds < 9223372036854775808 then some t else none

end Clock

end ConversionScheduler
