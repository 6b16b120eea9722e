import ConversionScheduler.Worker.Record
import Mathlib
/-!
# The age of a sign of life

A worker is stale once more than a threshold has passed since its last sign of life. The age is a
difference of two times. It is computed in numbers of 64 bits, as one of days and one of times of
day, and lengths of time have a bound of their own: a threshold above it cannot be converted, and
the check then says that the worker is not stale. Here the steps are taken a second time with all
bounds, where a step that overflows has no result. No step does, and no age is above the bound, so
what the check says of a threshold that cannot be converted is right.

Ages are exact but for leap seconds. Whether one has passed between two times is told by the seconds
of their days, which is right for times of the same day. A time in a leap second can be too near to
a time of another day: the leap second that ends a day lies beside the first second of the next day,
and not before it. So a sign of life in the future can have an age.

## Main definitions

* `Timestamp.elapsed` — the nanoseconds that have passed from one time to another.
* `Timestamp.dailyLeaps` — the leap seconds that ages count.
* `TimeSpan` — a length of time within the bound, with a sign.
* `Timestamp.since?` — the difference of two times by bounded steps.

## Main results

* `Timestamp.nanosSince_of_not_inLeapSecond`, `Timestamp.nanosSince_of_dayNumber_eq` — where ages
  are exact.
* `Timestamp.lt_nanosSince_iff_of_lt` — when a time in the future has an age.
* `Timestamp.exists_since?` — no step overflows, and the difference is the age.
* `staleness_exact` — what it means to be stale.
-/

namespace ConversionScheduler

/-! ## Times -/

namespace Timestamp

/-- Times are ordered by their seconds. A leap second comes between the second that it is counted
with and the next one. -/
instance : PartialOrder Timestamp where
  le t t' := t.seconds < t'.seconds ∨ t.seconds = t'.seconds ∧ t.nanos ≤ t'.nanos
  lt t t' := t.seconds < t'.seconds ∨ t.seconds = t'.seconds ∧ t.nanos < t'.nanos
  le_refl _ := .inr ⟨rfl, le_rfl⟩
  le_trans _ _ _ h h' := by omega
  lt_iff_le_not_ge _ _ := by omega
  le_antisymm t t' h h' := by
    obtain ⟨hseconds, hnanos⟩ : t.seconds = t'.seconds ∧ t.nanos = t'.nanos := by omega
    cases t
    cases t'
    cases hseconds
    cases hnanos
    rfl

/-- Whether a time lies in a leap second. -/
def InLeapSecond (t : Timestamp) : Prop := 1000000000 ≤ t.nanos

/-- Whether a point in time lies in a leap second is a comparison of numbers. -/
instance (t : Timestamp) : Decidable t.InLeapSecond := inferInstanceAs (Decidable (_ ≤ _))

/-- The nanoseconds since 1970-01-01T00:00:00Z, without those of leap seconds that are over. -/
def instant (t : Timestamp) : Int := t.seconds * 1000000000 + t.nanos

/-- The leap seconds that have passed from `earlier` to `t`, as far as one of the two lies in
them. -/
def leaps (t earlier : Timestamp) : Int :=
  if earlier.seconds < t.seconds ∧ earlier.InLeapSecond then 1
  else if t.seconds < earlier.seconds ∧ t.InLeapSecond then -1
  else 0

/-- The nanoseconds that have passed from `earlier` to `t`. -/
def elapsed (t earlier : Timestamp) : Int :=
  t.instant - earlier.instant + t.leaps earlier * 1000000000

/-- The leap seconds that an age counts, by the seconds of the day. -/
def dailyLeaps (t earlier : Timestamp) : Int :=
  if earlier.secondOfDay < t.secondOfDay ∧ earlier.InLeapSecond then 1
  else if t.secondOfDay < earlier.secondOfDay ∧ t.InLeapSecond then -1
  else 0

variable {t t' earlier : Timestamp}

/-- Points in time are ordered by their seconds, and within a second by their nanoseconds. -/
lemma lt_iff : t < t' ↔ t.seconds < t'.seconds ∨ t.seconds = t'.seconds ∧ t.nanos < t'.nanos :=
  .rfl

/-- Points in time are ordered by their seconds, and within a second by their nanoseconds. -/
lemma le_iff : t ≤ t' ↔ t.seconds < t'.seconds ∨ t.seconds = t'.seconds ∧ t.nanos ≤ t'.nanos :=
  .rfl

/-- The order of points in time is a comparison of numbers. -/
instance : Decidable (t < t') := decidable_of_iff' _ lt_iff

/-- The nanoseconds go on for a second at most beyond the second itself. -/
lemma nanos_lt_two_seconds (t : Timestamp) : t.nanos < 2000000000 := by
  have h := t.nanos_lt
  omega

/-- A leap second is counted with the last second of its minute. -/
lemma InLeapSecond.mod_eq (h : t.InLeapSecond) : t.seconds % 60 = 59 := by
  have hnanos := t.nanos_lt
  unfold InLeapSecond at h
  omega

/-- A distance counts a leap second of either point in time, in its direction, if the other one lies
at a later second of the day, and no leap second otherwise. -/
lemma dailyLeaps_cases (t earlier : Timestamp) :
    t.dailyLeaps earlier = 0 ∧ (earlier.InLeapSecond → t.secondOfDay ≤ earlier.secondOfDay) ∧
        (t.InLeapSecond → earlier.secondOfDay ≤ t.secondOfDay) ∨
      t.dailyLeaps earlier = 1 ∧ earlier.secondOfDay < t.secondOfDay ∧ earlier.InLeapSecond ∨
      t.dailyLeaps earlier = -1 ∧ t.secondOfDay < earlier.secondOfDay ∧ t.InLeapSecond := by
  unfold dailyLeaps
  split
  · exact .inr (.inl ⟨rfl, ‹_›⟩)
  · rename_i hearlier
    split
    · exact .inr (.inr ⟨rfl, ‹_›⟩)
    · rename_i ht
      exact .inl ⟨rfl, fun h => not_lt.mp fun hlt => hearlier ⟨hlt, h⟩,
        fun h => not_lt.mp fun hlt => ht ⟨hlt, h⟩⟩

/-- A distance is that of the two instants and the leap seconds that count. -/
lemma nanosSince_eq (t earlier : Timestamp) :
    t.nanosSince earlier = t.instant - earlier.instant + t.dailyLeaps earlier * 1000000000 := by
  show (t.seconds - earlier.seconds + t.dailyLeaps earlier) * 1000000000 + _ = _
  unfold instant
  omega

/-- **Ages are exact** between times that lie in no leap second. -/
theorem nanosSince_of_not_inLeapSecond (ht : ¬ t.InLeapSecond) (hearlier : ¬ earlier.InLeapSecond) :
    t.nanosSince earlier = t.instant - earlier.instant := by
  have hleaps : t.dailyLeaps earlier = 0 := by
    rw [dailyLeaps, if_neg fun h => hearlier h.2, if_neg fun h => ht h.2]
  rw [nanosSince_eq, hleaps, Int.zero_mul, Int.add_zero]

/-- Within a day the seconds of the day are ordered as the seconds are. -/
lemma secondOfDay_lt_iff (h : t.dayNumber = t'.dayNumber) :
    t.secondOfDay < t'.secondOfDay ↔ t.seconds < t'.seconds := by
  unfold dayNumber at h
  unfold secondOfDay
  omega

/-- **Ages are exact** within a day, where the later of two seconds is at the later second of the
day. -/
theorem nanosSince_of_dayNumber_eq (h : t.dayNumber = earlier.dayNumber) :
    t.nanosSince earlier = t.elapsed earlier := by
  simp only [nanosSince_eq, elapsed, dailyLeaps, leaps, secondOfDay_lt_iff h,
    secondOfDay_lt_iff h.symm]

/-- Outside leap seconds a later time is further from 1970. -/
lemma instant_le_instant (ht : ¬ t.InLeapSecond) (h : t ≤ t') : t.instant ≤ t'.instant := by
  unfold InLeapSecond at ht
  unfold instant
  rw [le_iff] at h
  omega

/-- **A time in the future has an age** only if the present is in the leap second at the end of a
day and it is in the second after that one.

**Proof sketch.** The nanoseconds of the two times differ by less than two seconds, so the times are
neighbouring seconds, unless a leap second is counted. It is counted forwards only if the time in
the future lies in it and is at the earlier second of its day; that second would be one of the first
two of the next day, which are no leap seconds. So none is counted although the present lies in one:
it is not at the earlier second of its day, and its neighbour is the first second of the next. -/
theorem lt_nanosSince_iff_of_lt (h : t < earlier) (n : Nat) :
    (n : Int) < t.nanosSince earlier ↔
      t.secondOfDay = 86399 ∧ earlier.seconds = t.seconds + 1 ∧
        earlier.nanos + 1000000000 + n < t.nanos := by
  rw [lt_iff] at h
  have ht := t.nanos_lt_two_seconds
  have hearlier := earlier.nanos_lt_two_seconds
  rw [nanosSince_eq, instant, instant]
  rcases dailyLeaps_cases t earlier with
    ⟨hnone, -, hleap⟩ | ⟨hforwards, hsecond, hleap⟩ | ⟨hbackwards, hsecond, -⟩
  · unfold InLeapSecond secondOfDay at hleap
    unfold secondOfDay
    omega
  · -- both sides are false: the first two seconds of a day are no leap seconds
    have hminute := hleap.mod_eq
    unfold secondOfDay at *
    omega
  · -- both sides are false: a leap second counted backwards makes up for the present one
    unfold secondOfDay at *
    omega

end Timestamp

/-! ## Bounded steps -/

/-- A length of time: seconds, and the nanoseconds after them. Whatever its sign, it is not longer
than the longest threshold that ages are compared with. -/
structure TimeSpan where
  seconds : Int
  nanos : Nat
  nanos_lt : nanos < 1000000000
  natAbs_le : (seconds * 1000000000 + nanos).natAbs ≤ Timestamp.maxThreshold

namespace TimeSpan

/-- A length of time in nanoseconds. -/
def inNanos (a : TimeSpan) : Int := a.seconds * 1000000000 + a.nanos

/-- The length of time with the given parts, if there is one. -/
def ofParts? (seconds : Int) (nanos : Nat) : Option TimeSpan :=
  if h : nanos < 1000000000 ∧ (seconds * 1000000000 + nanos).natAbs ≤ Timestamp.maxThreshold then
    some ⟨seconds, nanos, h.1, h.2⟩
  else none

/-- The same length of time, if it is not too long. -/
def ofDuration? (d : Duration) : Option TimeSpan := ofParts? d.wholeSeconds (d.nanos % 1000000000)

/-- A signed number, if 64 bits hold it. -/
def int64? (n : Int) : Option Int :=
  if -9223372036854775808 ≤ n ∧ n < 9223372036854775808 then some n else none

/-- The sum of two lengths of time, if there is one. -/
def sum? (a b : TimeSpan) : Option TimeSpan := do
  let nanos := a.nanos + b.nanos
  let seconds ← int64? (a.seconds + b.seconds)
  let seconds ← int64? (seconds + (nanos / 1000000000 : Nat))
  ofParts? seconds (nanos % 1000000000)

/-- Whether a length of time is above another one. The nanoseconds are compared if the seconds are
the same. -/
def exceeds (a limit : TimeSpan) : Bool :=
  limit.seconds < a.seconds || (limit.seconds = a.seconds && limit.nanos < a.nanos)

/-- Spans are compared by their nanoseconds. -/
lemma exceeds_iff (a limit : TimeSpan) : a.exceeds limit = true ↔ limit.inNanos < a.inNanos := by
  have ha := a.nanos_lt
  have hlimit := limit.nanos_lt
  unfold inNanos
  simp only [exceeds, Bool.or_eq_true, Bool.and_eq_true, decide_eq_true_eq]
  omega

/-- A span that is not too long can be made of its parts, and is what they say. -/
lemma exists_ofParts? (seconds : Int) {nanos : Nat} (hnanos : nanos < 1000000000)
    (hlong : (seconds * 1000000000 + nanos).natAbs ≤ Timestamp.maxThreshold) :
    ∃ a, ofParts? seconds nanos = some a ∧ a.inNanos = seconds * 1000000000 + nanos :=
  ⟨_, dif_pos ⟨hnanos, hlong⟩, rfl⟩

/-- The whole seconds of a duration and the nanoseconds beyond them are the duration. -/
lemma parts_eq (d : Duration) :
    (d.wholeSeconds : Int) * 1000000000 + (d.nanos % 1000000000 : Nat) = d.nanos := by
  unfold Duration.wholeSeconds
  omega

/-- A duration cannot be converted if it is above the bound. -/
lemma ofDuration?_eq_none_iff {d : Duration} :
    ofDuration? d = none ↔ Timestamp.maxThreshold < d.nanos := by
  have hmod : d.nanos % 1000000000 < 1000000000 := Nat.mod_lt _ (by decide)
  simp only [ofDuration?, ofParts?, parts_eq, hmod, true_and, dite_eq_right_iff, reduceCtorEq,
    Int.natAbs_natCast]
  exact not_le

/-- A duration that can be converted keeps its length. -/
lemma inNanos_of_ofDuration? {d : Duration} {a : TimeSpan} (h : ofDuration? d = some a) :
    a.inNanos = d.nanos := by
  obtain ⟨_, hsome⟩ := Option.dite_none_right_eq_some.mp h
  obtain rfl := Option.some.inj hsome
  exact parts_eq d

/-- A number of 64 bits is what it is. -/
lemma int64?_eq {n : Int} (h : -9223372036854775808 ≤ n ∧ n < 9223372036854775808) :
    int64? n = some n := if_pos h

/-- The sum of two lengths of time is a length of time, unless it is too long. -/
lemma exists_sum? {a b : TimeSpan} (h : (a.inNanos + b.inNanos).natAbs ≤ Timestamp.maxThreshold) :
    ∃ c, a.sum? b = some c ∧ c.inNanos = a.inNanos + b.inNanos := by
  have ha := a.natAbs_le
  have hb := b.natAbs_le
  have hnanos := And.intro a.nanos_lt b.nanos_lt
  unfold Timestamp.maxThreshold at ha hb
  have hsum : (a.seconds + b.seconds + ((a.nanos + b.nanos) / 1000000000 : Nat)) * 1000000000 +
      ((a.nanos + b.nanos) % 1000000000 : Nat) = a.inNanos + b.inNanos := by
    unfold inNanos
    omega
  obtain ⟨c, hc, heq⟩ := exists_ofParts? _ (Nat.mod_lt (a.nanos + b.nanos) (by decide))
    (hsum ▸ h)
  refine ⟨c, ?_, heq.trans hsum⟩
  simp (disch := omega) only [sum?, int64?_eq, Option.bind_eq_bind, Option.bind_some]
  exact hc

end TimeSpan

namespace Timestamp

open TimeSpan (int64?)

variable {t earlier : Timestamp}

/-- The days between the dates of two times. -/
def daysSince? (t earlier : Timestamp) : Option TimeSpan := do
  let days ← int64? (t.dayNumber - earlier.dayNumber)
  let seconds ← int64? (days * 86400)
  TimeSpan.ofParts? seconds 0

/-- The time between the times of day of two times. -/
def timeOfDaySince? (t earlier : Timestamp) : Option TimeSpan := do
  let seconds ← int64? (t.secondOfDay - earlier.secondOfDay)
  let seconds ← int64? (seconds + t.dailyLeaps earlier)
  let nanos ← int64? (t.nanos - earlier.nanos)
  let seconds ← int64? (seconds + nanos / 1000000000)
  TimeSpan.ofParts? seconds (nanos % 1000000000).toNat

/-- The difference of two times. Every step is bounded, and there is no result if one of them
overflows. -/
def since? (t earlier : Timestamp) : Option TimeSpan := do
  let days ← t.daysSince? earlier
  let timeOfDay ← t.timeOfDaySince? earlier
  days.sum? timeOfDay

/-- The days between two points in time make a span, whichever points these are. -/
lemma exists_daysSince? (t earlier : Timestamp) :
    ∃ a, t.daysSince? earlier = some a ∧
      a.inNanos = (t.dayNumber - earlier.dayNumber) * 86400 * 1000000000 := by
  have ht := And.intro t.min_le t.le_max
  have hearlier := And.intro earlier.min_le earlier.le_max
  have hdays : -200000000 ≤ t.dayNumber - earlier.dayNumber ∧
      t.dayNumber - earlier.dayNumber ≤ 200000000 := by
    unfold dayNumber
    omega
  simp (disch := omega) only [daysSince?, TimeSpan.int64?_eq, Option.bind_eq_bind, Option.bind_some]
  obtain ⟨a, ha, hlength⟩ := TimeSpan.exists_ofParts? ((t.dayNumber - earlier.dayNumber) * 86400)
    (show 0 < 1000000000 by decide) (by unfold maxThreshold; omega)
  exact ⟨a, ha, hlength.trans (Int.add_zero _)⟩

/-- The times of the day of two points in time and the leap seconds between them make a span.

**Proof sketch.** The seconds differ by less than a day and the leap seconds count one at most, so
every bounded step stays far within its bounds. A negative difference of the nanoseconds borrows one
second. -/
lemma exists_timeOfDaySince? (t earlier : Timestamp) :
    ∃ a, t.timeOfDaySince? earlier = some a ∧
      a.inNanos = (t.secondOfDay - earlier.secondOfDay + t.dailyLeaps earlier) * 1000000000 +
        ((t.nanos : Int) - earlier.nanos) := by
  have ht := t.nanos_lt_two_seconds
  have hearlier := earlier.nanos_lt_two_seconds
  have hseconds : -86400 < t.secondOfDay - earlier.secondOfDay ∧
      t.secondOfDay - earlier.secondOfDay < 86400 := by
    unfold secondOfDay
    omega
  have hleaps : -1 ≤ t.dailyLeaps earlier ∧ t.dailyLeaps earlier ≤ 1 := by
    have hcases := dailyLeaps_cases t earlier
    omega
  obtain ⟨n, hn⟩ : ∃ n : Int, n = t.nanos - earlier.nanos := ⟨_, rfl⟩
  -- a negative difference of the nanoseconds borrows from the seconds
  have hparts : (t.secondOfDay - earlier.secondOfDay + t.dailyLeaps earlier + n / 1000000000) *
      1000000000 + ((n % 1000000000).toNat : Nat) =
        (t.secondOfDay - earlier.secondOfDay + t.dailyLeaps earlier) * 1000000000 + n := by
    omega
  have hnanos : (n % 1000000000).toNat < 1000000000 := by omega
  obtain ⟨a, ha, hlength⟩ := TimeSpan.exists_ofParts? _ hnanos
    (by rw [hparts]; unfold maxThreshold; omega)
  refine ⟨a, ?_, by rw [hlength, hparts, hn]⟩
  simp (disch := omega) only [timeOfDaySince?, ← hn, TimeSpan.int64?_eq, Option.bind_eq_bind,
    Option.bind_some]
  exact ha

/-- No two times are further apart than the longest threshold that ages are compared with. -/
lemma natAbs_nanosSince_le (t earlier : Timestamp) :
    (t.nanosSince earlier).natAbs ≤ maxThreshold := by
  have ht := t.nanos_lt_two_seconds
  have hearlier := earlier.nanos_lt_two_seconds
  have hseconds := And.intro t.min_le t.le_max
  have hseconds' := And.intro earlier.min_le earlier.le_max
  have hcases := dailyLeaps_cases t earlier
  rw [nanosSince_eq, instant, instant]
  unfold maxThreshold
  omega

/-- **No step of the subtraction overflows**, and the difference is the age. -/
theorem exists_since? (t earlier : Timestamp) :
    ∃ age, t.since? earlier = some age ∧ age.inNanos = t.nanosSince earlier := by
  obtain ⟨days, hdays, hwhole⟩ := exists_daysSince? t earlier
  obtain ⟨timeOfDay, htime, hrest⟩ := exists_timeOfDaySince? t earlier
  have hsum : days.inNanos + timeOfDay.inNanos = t.nanosSince earlier := by
    rw [hwhole, hrest, nanosSince_eq, instant, instant]
    unfold dayNumber secondOfDay
    omega
  obtain ⟨age, hage, heq⟩ := TimeSpan.exists_sum? (hsum ▸ natAbs_nanosSince_le t earlier)
  refine ⟨age, ?_, heq.trans hsum⟩
  rw [since?, hdays, Option.bind_eq_bind, Option.bind_some, htime, Option.bind_some, hage]

end Timestamp

/-! ## Staleness -/

namespace WorkerRecord

variable {r r' : WorkerRecord} {now now' : Timestamp} {threshold threshold' : Duration}

/-- A worker is stale if its age is above the threshold, also where the bound is checked first. -/
lemma isStale_iff : r.isStale now threshold = true ↔
    (threshold.nanos : Int) < now.nanosSince r.lastHeartbeat := by
  have hage := now.natAbs_nanosSince_le r.lastHeartbeat
  rw [isStale, Timestamp.olderThan, Bool.and_eq_true, decide_eq_true_eq, decide_eq_true_eq]
  omega

/-- The check by bounded steps. -/
lemma isStale_eq_any {age : TimeSpan} (h : age.inNanos = now.nanosSince r.lastHeartbeat) :
    r.isStale now threshold = (TimeSpan.ofDuration? threshold).any age.exceeds := by
  rw [Bool.eq_iff_iff, isStale_iff, ← h]
  cases hlimit : TimeSpan.ofDuration? threshold with
  | none =>
    have hlong := TimeSpan.ofDuration?_eq_none_iff.mp hlimit
    have hage := age.natAbs_le
    rw [Option.any_none, TimeSpan.inNanos]
    simp only [Bool.false_eq_true, iff_false]
    omega
  | some limit =>
    rw [Option.any_some, TimeSpan.exceeds_iff, TimeSpan.inNanos_of_ofDuration? hlimit]

/-- An older worker is stale by a shorter threshold. -/
lemma isStale_le_isStale (hthreshold : threshold'.nanos ≤ threshold.nanos)
    (hage : now.nanosSince r.lastHeartbeat ≤ now'.nanosSince r'.lastHeartbeat) :
    r.isStale now threshold ≤ r'.isStale now' threshold' := by
  rw [Bool.le_iff_imp, isStale_iff, isStale_iff]
  omega

/-- A worker that is stale stays so, outside leap seconds. -/
lemma monotoneOn_isStale (threshold : Duration) (hr : ¬ r.lastHeartbeat.InLeapSecond) :
    MonotoneOn (fun t => r.isStale t threshold) {t | ¬ t.InLeapSecond} := by
  intro t ht t' ht' hle
  refine isStale_le_isStale le_rfl ?_
  rw [Timestamp.nanosSince_of_not_inLeapSecond ht hr,
    Timestamp.nanosSince_of_not_inLeapSecond ht' hr]
  exact Int.sub_le_sub_right (Timestamp.instant_le_instant ht hle) _

/-- A worker that is stale would be so by an earlier sign of life, outside leap seconds. -/
lemma antitoneOn_isStale (threshold : Duration) (hnow : ¬ now.InLeapSecond) :
    AntitoneOn (fun t => (r.touch t).isStale now threshold) {t | ¬ t.InLeapSecond} := by
  intro t ht t' ht' hle
  refine isStale_le_isStale le_rfl ?_
  show now.nanosSince t' ≤ now.nanosSince t
  rw [Timestamp.nanosSince_of_not_inLeapSecond hnow ht,
    Timestamp.nanosSince_of_not_inLeapSecond hnow ht']
  exact Int.sub_le_sub_left (Timestamp.instant_le_instant ht hle) _

end WorkerRecord

/-- **What it means to be stale**, for any times and any threshold. The difference of the two times
by bounded steps is the age, so none of the steps overflows. The check compares it with the
converted threshold, and a threshold that cannot be converted is above any age there can be. So a
worker is stale exactly if its age is above the threshold, to the nanosecond.

The age is what has passed between two times outside leap seconds, and between any two times of a
day. A sign of life in the future makes a worker stale only if the present is in the leap second at
the end of a day and the sign of life in the second after that, nearer to its beginning by more than
the threshold. Outside leap seconds a worker that is stale stays so, and would be so by any earlier
sign of life; and whatever the times, it is so by any shorter threshold.

**Proof sketch.** `exists_since?` gives the age that the bounded steps come to. Every other part is
a law of `Timestamp.nanosSince`, put into the check by `isStale_iff`; a threshold too long to be
converted is above every difference, since those are bounded. -/
theorem staleness_exact (r : WorkerRecord) (now : Timestamp) (threshold : Duration) :
    let last := r.lastHeartbeat
    (∃ age, now.since? last = some age ∧ age.inNanos = now.nanosSince last ∧
      r.isStale now threshold = (TimeSpan.ofDuration? threshold).any age.exceeds) ∧
    (TimeSpan.ofDuration? threshold = none →
      ∀ t t' : Timestamp, t.nanosSince t' < threshold.nanos) ∧
    (r.isStale now threshold = true ↔ (threshold.nanos : Int) < now.nanosSince last) ∧
    (¬ now.InLeapSecond → ¬ last.InLeapSecond →
      now.nanosSince last = now.instant - last.instant) ∧
    (now.dayNumber = last.dayNumber → now.nanosSince last = now.elapsed last) ∧
    (now < last → (r.isStale now threshold = true ↔
      now.secondOfDay = 86399 ∧ last.seconds = now.seconds + 1 ∧
        last.nanos + 1000000000 + threshold.nanos < now.nanos)) ∧
    (¬ last.InLeapSecond →
      MonotoneOn (fun t => r.isStale t threshold) {t | ¬ t.InLeapSecond}) ∧
    (¬ now.InLeapSecond →
      AntitoneOn (fun t => (r.touch t).isStale now threshold) {t | ¬ t.InLeapSecond}) ∧
    Antitone fun nanos => r.isStale now ⟨nanos⟩ := by
  intro last
  obtain ⟨age, hage, hlength⟩ := now.exists_since? last
  refine ⟨⟨age, hage, hlength, WorkerRecord.isStale_eq_any hlength⟩, fun hnone t t' => ?_,
    WorkerRecord.isStale_iff, Timestamp.nanosSince_of_not_inLeapSecond,
    Timestamp.nanosSince_of_dayNumber_eq,
    fun h => WorkerRecord.isStale_iff.trans (Timestamp.lt_nanosSince_iff_of_lt h _),
    WorkerRecord.monotoneOn_isStale threshold, WorkerRecord.antitoneOn_isStale threshold,
    fun _ _ hle => WorkerRecord.isStale_le_isStale hle le_rfl⟩
  -- a threshold that cannot be converted exceeds the difference of any two times
  have hlong := TimeSpan.ofDuration?_eq_none_iff.mp hnone
  have hbound := t.natAbs_nanosSince_le t'
  omega

/-! ### The turn of a year with a leap second -/

/-- 2016-12-31T23:59:60.5Z. -/
def Timestamp.leapSecond : Timestamp := ⟨1483228799, 1500000000, by decide, by decide, by decide⟩

/-- 2017-01-01T00:00:00Z. -/
def Timestamp.newYear : Timestamp := ⟨1483228800, 0, by decide, by decide, by decide⟩

/-- 2017-01-01T00:05:00.000000001Z. -/
def Timestamp.afterFiveMinutes : Timestamp := ⟨1483229100, 1, by decide, by decide, by decide⟩

/-- The record of a worker that was last heard of at the beginning of the year. -/
def WorkerRecord.newYears : WorkerRecord := ⟨"w", "a:1", .newYear, 1⟩

/-- After five minutes and a nanosecond, a worker is stale by a threshold of five minutes, and not
by one that is a nanosecond longer. The longest threshold there is cannot be converted and has not
passed between any two times. In the leap second before the sign of life it is stale by a threshold
of less than half a second. -/
theorem staleness_exact_of_newYears :
    WorkerRecord.newYears.isStale .afterFiveMinutes (.ofSeconds 300) = true ∧
    WorkerRecord.newYears.isStale .afterFiveMinutes ⟨300000000001⟩ = false ∧
    (∀ t t' : Timestamp, t.nanosSince t' < (18446744073709551615999999999 : Nat)) ∧
    WorkerRecord.newYears.isStale .leapSecond ⟨499999999⟩ = true ∧
    MonotoneOn (fun t => WorkerRecord.newYears.isStale t (.ofSeconds 300))
      {t | ¬ t.InLeapSecond} ∧
    AntitoneOn (fun t => (WorkerRecord.newYears.touch t).isStale .afterFiveMinutes (.ofSeconds 300))
      {t | ¬ t.InLeapSecond} := by
  obtain ⟨-, -, hstale, hexact, -, -, hmono, hanti, -⟩ :=
    staleness_exact .newYears .afterFiveMinutes (.ofSeconds 300)
  obtain ⟨-, -, hlonger, -, hday, -⟩ :=
    staleness_exact .newYears .afterFiveMinutes ⟨300000000001⟩
  obtain ⟨-, hlongest, -⟩ :=
    staleness_exact .newYears .afterFiveMinutes ⟨18446744073709551615999999999⟩
  obtain ⟨-, -, -, -, -, hfuture, -⟩ := staleness_exact .newYears .leapSecond ⟨499999999⟩
  have hage := hexact (by decide) (by decide)
  have hsame := hday (by decide)
  refine ⟨hstale.mpr ?_, ?_, hlongest (by decide), (hfuture (by decide)).mpr (by decide),
    hmono (by decide), hanti (by decide)⟩
  · rw [hage]
    decide
  · rw [Bool.eq_false_iff, Ne, hlonger, hsame]
    decide

/-- In the leap second at the end of a year, a sign of life at the beginning of the next year is
too long ago for a threshold of nothing. It is not when that year begins. -/
theorem stale_before_sign_of_life :
    Timestamp.ofString? "2016-12-31T23:59:60.5Z" = some .leapSecond ∧
    Timestamp.ofString? "2017-01-01T00:00:00Z" = some WorkerRecord.newYears.lastHeartbeat ∧
    Timestamp.leapSecond < WorkerRecord.newYears.lastHeartbeat ∧
    WorkerRecord.newYears.isStale .leapSecond ⟨0⟩ = true ∧
    WorkerRecord.newYears.isStale WorkerRecord.newYears.lastHeartbeat ⟨0⟩ = false :=
  ⟨by decide +kernel, by decide +kernel, by decide, by decide, by decide⟩

end ConversionScheduler
