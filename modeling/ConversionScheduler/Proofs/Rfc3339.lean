import ConversionScheduler.Proofs.Calendar
import ConversionScheduler.Proofs.Digits
import ConversionScheduler.Time.Rfc3339
/-!
# Points in time survive their text

The text of a point in time has a date, a time of day and a fraction of a second in fixed places.
Each part is read back in front of the next one, for every point in time there is: years with a
sign, leap seconds and fractions of any length included.

## Main results

* `Timestamp.ofChars?_parts` — reading the parts one after the other.
* `Timestamp.ofFields?_fields` — the parts give the point in time.
* `Timestamp.ofString?_text` — a point in time is read back from its text.
-/

namespace ConversionScheduler.Timestamp

open Decimal (isDigit digits pad ofDigits)

/-- Digits are no blanks. -/
lemma not_isBlank_of_isDigit {c : Char} (h : isDigit c = true) : isBlank c = false := by
  simp only [isDigit, Bool.and_eq_true, decide_eq_true_eq, Char.le_def] at h
  obtain ⟨h0, h9⟩ := h
  have hlo : 48 ≤ c.toNat := h0
  have hhi : c.toNat ≤ 57 := h9
  simp only [isBlank, blankRanges, List.any_cons, List.any_nil, Bool.or_false]
  simp only [Bool.or_eq_false_iff, Bool.and_eq_false_iff, decide_eq_false_iff_not]
  omega

/-- A number is read off its digits, up to the width or to something else. -/
lemma number?_append {w : Nat} {ds : List Char} (rest : List Char) (hne : ds ≠ [])
    (hd : ∀ c ∈ ds, isDigit c = true) (hlen : ds.length ≤ w)
    (hstop : ds.length = w ∨ ∀ c, rest.head? = some c → isDigit c = false) :
    number? w (ds ++ rest) = some (ofDigits ds, rest) := by
  have htake : ((ds ++ rest).take w).takeWhile isDigit = ds := by
    rw [List.take_append, List.take_of_length_le hlen, List.takeWhile_append_of_pos hd]
    rcases hstop with hw | hrest
    · simp [hw]
    · have : (rest.take (w - ds.length)).takeWhile isDigit = [] := by
        cases rest with
        | nil => simp
        | cons c rest =>
          cases hk : w - ds.length with
          | zero => simp
          | succ k => simp [hrest c rfl]
      simp [this]
  simp [number?, htake, hne]

/-- A padded number is read back. -/
lemma number?_pad {w n : Nat} (hw : 0 < w) (hn : n < 10 ^ w) (rest : List Char) :
    number? w (pad w n ++ rest) = some (n, rest) := by
  have hlen := Decimal.length_pad hw hn
  have hne : pad w n ≠ [] := by
    intro h
    rw [h] at hlen
    exact absurd hlen (Nat.ne_of_lt hw)
  rw [number?_append rest hne (fun c hc => Decimal.isDigit_of_mem_pad hc) (Nat.le_of_eq hlen)
    (.inl hlen), Decimal.ofDigits_pad]

/-- A padded number begins with a digit, so that nothing is trimmed off it. -/
lemma trimStart_pad {w n : Nat} (hw : 0 < w) (hn : n < 10 ^ w) (rest : List Char) :
    trimStart (pad w n ++ rest) = pad w n ++ rest := by
  have hlen := Decimal.length_pad hw hn
  cases hp : pad w n with
  | nil =>
    rw [hp] at hlen
    exact absurd hlen (Nat.ne_of_lt hw)
  | cons c cs =>
    have hc : isBlank c = false :=
      not_isBlank_of_isDigit (Decimal.isDigit_of_mem_pad (w := w) (n := n) (by rw [hp]; simp))
    simp [trimStart, hc]

/-- A field of two digits is read back. -/
lemma field?_pad {n : Nat} (hn : n < 100) (rest : List Char) :
    field? 2 (pad 2 n ++ rest) = some (n, rest) := by
  rw [field?, trimStart_pad (by decide) hn, number?_pad (by decide) hn]

/-- A mark that is no blank itself is read. -/
lemma mark?_cons {c : Char} (hc : isBlank c = false) (rest : List Char) :
    mark? c (c :: rest) = some rest := by
  simp [mark?, trimStart, hc]

/-- A number is read off all its digits in front of another character. -/
lemma longNumber?_pad {w n : Nat} (hn : n < 9223372036854775808) {c : Char}
    (hc : isDigit c = false) (rest : List Char) :
    longNumber? (pad w n ++ c :: rest) = some (n, c :: rest) := by
  have hne : pad w n ≠ [] := by simp [pad, Decimal.digits_ne_nil]
  have hread := number?_append (w := (pad w n ++ c :: rest).length) (c :: rest) hne
    (fun c hc => Decimal.isDigit_of_mem_pad hc) (by simp) (.inr (by simpa using hc))
  rw [Decimal.ofDigits_pad] at hread
  simp only [longNumber?, hread, if_pos hn]

/-- A year without a sign begins with a digit. -/
lemma year?_pad {n : Nat} (hn : n < 10 ^ 4) (rest : List Char) :
    year? (pad 4 n ++ rest) = some ((n : Int), rest) := by
  have hread := number?_pad (by decide) hn rest
  have htrim := trimStart_pad (by decide) hn rest
  cases hp : pad 4 n with
  | nil => exact absurd hp (by simp [pad, Decimal.digits_ne_nil])
  | cons c cs =>
    have hc : isDigit c = true := Decimal.isDigit_of_mem_pad (w := 4) (n := n) (by rw [hp]; simp)
    have hminus : c ≠ '-' := by rintro rfl; exact absurd hc (by decide)
    have hplus : c ≠ '+' := by rintro rfl; exact absurd hc (by decide)
    rw [hp] at hread htrim
    rw [year?, htrim]
    split
    · rename_i heq
      exact absurd (List.cons.inj heq).1 hminus
    · rename_i heq
      exact absurd (List.cons.inj heq).1 hplus
    · rw [hread]
      rfl

/-- A year is read back in front of the dash that follows it. -/
lemma year?_yearText {y : Int} (hmin : -262143 ≤ y) (hmax : y ≤ 262142) (rest : List Char) :
    year? (yearText y ++ '-' :: rest) = some (y, '-' :: rest) := by
  have hdash : isDigit '-' = false := by decide
  have hlong := longNumber?_pad (w := 4) (n := y.natAbs) (by omega) hdash rest
  unfold yearText
  split
  · rename_i h
    rw [year?_pad (by omega), Int.toNat_of_nonneg h.1]
  · split
    · rename_i h
      have hy : (y.natAbs : Int) = y := Int.natAbs_of_nonneg h
      have htrim : trimStart ('+' :: (pad 4 y.natAbs ++ '-' :: rest)) =
          '+' :: (pad 4 y.natAbs ++ '-' :: rest) := by simp [trimStart, isBlank, blankRanges]
      simp only [List.cons_append, year?, htrim, hlong, Option.map_some, hy]
    · rename_i h
      have hy : -(y.natAbs : Int) = y := by omega
      have htrim : trimStart ('-' :: (pad 4 y.natAbs ++ '-' :: rest)) =
          '-' :: (pad 4 y.natAbs ++ '-' :: rest) := by simp [trimStart, isBlank, blankRanges]
      simp only [List.cons_append, year?, htrim, hlong, Option.map_some, hy]

/-- A fraction of some places is read back in front of the final letter. -/
lemma fraction?_pad {k n : Nat} (hk : 0 < k) (hk9 : k ≤ 9) (hn : n < 10 ^ k) :
    fraction? ('.' :: (pad k n ++ ['Z'])) = some (n * 10 ^ (9 - k), ['Z']) := by
  have hlen := Decimal.length_pad hk hn
  have hne : pad k n ≠ [] := by simp [pad, Decimal.digits_ne_nil]
  have hread := number?_append (w := 9) ['Z'] hne
    (fun c hc => Decimal.isDigit_of_mem_pad hc) (by omega) (.inr (by simp; decide))
  rw [Decimal.ofDigits_pad] at hread
  have hdrop : ['Z'].dropWhile isDigit = ['Z'] := by decide
  simp only [fraction?, hread, hdrop, List.length_append, List.length_singleton, hlen,
    Nat.add_sub_cancel]
  rfl

/-- The nanoseconds of a second are read back in front of the final letter. -/
lemma fraction?_fractionText {n : Nat} (hn : n < 1000000000) :
    fraction? (fractionText n ++ ['Z']) = some (n, ['Z']) := by
  unfold fractionText
  split
  · rename_i h
    rw [h]
    rfl
  · split
    · rename_i h
      have hmillis : n / 1000000 * 10 ^ (9 - 3) = n := by omega
      rw [List.cons_append, fraction?_pad (by decide) (by decide) (by omega), hmillis]
    · split
      · rename_i h
        have hmicros : n / 1000 * 10 ^ (9 - 6) = n := by omega
        rw [List.cons_append, fraction?_pad (by decide) (by decide) (by omega), hmicros]
      · rw [List.cons_append, fraction?_pad (by decide) (by decide) (by omega)]
        simp

/-- The letter of universal time is an offset of nothing. -/
lemma offset?_utc : offset? ['Z'] = some (0, []) := by decide

section Fields

variable {d : Date} {hour minute : Nat} (hd : d.isValid = true) (hmin : -262143 ≤ d.year)
  (hmax : d.year ≤ 262142) (hh : hour < 24) (hm : minute < 60)

include hd hmin hmax hh hm

/-- Below the 60th second the point in time has the seconds and the nanoseconds of its fields. -/
lemma ofFields?_of_lt {second : Nat} (hs : second < 60) (nanos : Nat) :
    ofFields? d hour minute second nanos 0 =
      ofParts? (d.toDays * 86400 + (hour * 3600 + minute * 60 + second : Nat)) nanos := by
  have hne : second ≠ 60 := by omega
  simp only [ofFields?, if_neg hne, Nat.zero_mul, Nat.add_zero, Nat.sub_zero, Int.sub_zero]
  exact if_pos ⟨hd, hmin, hmax, hh, hm, by omega⟩

/-- The 60th second of a minute is the leap second after the 59th. -/
lemma ofFields?_leap (nanos : Nat) :
    ofFields? d hour minute 60 nanos 0 =
      ofParts? (d.toDays * 86400 + (hour * 3600 + minute * 60 + 59 : Nat))
        (nanos + 1000000000) := by
  simp only [ofFields?, Int.sub_zero]
  exact if_pos ⟨hd, hmin, hmax, hh, hm, Nat.le_refl _⟩

end Fields

/-- The parts of a point in time that its text shows give that point in time.

**Proof sketch.** The date and the time of the day are those of the text, and from a date the days
are counted back. In a leap second the second shown is the sixtieth, which is taken for the
fifty-ninth with a second's nanoseconds more. -/
lemma ofFields?_fields (t : Timestamp) {leap : Nat}
    (hleap : leap = if 1000000000 ≤ t.nanos then 1 else 0) :
    ofFields? (Date.ofDays t.dayNumber) (t.secondOfDay.toNat / 3600)
      (t.secondOfDay.toNat / 60 % 60) (t.secondOfDay.toNat % 60 + leap)
      (t.nanos - leap * 1000000000) 0 = some t := by
  have hnanos := t.nanos_lt
  have hlo := t.min_le
  have hhi := t.le_max
  have hparts : ofParts? t.seconds t.nanos = some t := dif_pos ⟨hnanos, hlo, hhi⟩
  have hs : (t.secondOfDay.toNat : Int) = t.seconds % 86400 :=
    Int.toNat_of_nonneg (Int.emod_nonneg _ (by decide))
  have hday : t.dayNumber = t.seconds / 86400 := rfl
  generalize t.secondOfDay.toNat = s at hs ⊢
  obtain ⟨hymin, hymax⟩ := Date.year_ofDays t.dayNumber (by omega) (by omega)
  have hvalid := Date.isValid_ofDays t.dayNumber
  rw [← hparts]
  -- a time in a leap second stands at the end of a minute
  by_cases h : 1000000000 ≤ t.nanos
  · have hsecond : s % 60 = 59 := by omega
    rw [if_pos h] at hleap
    rw [hleap, hsecond, ofFields?_leap hvalid hymin hymax (by omega) (by omega),
      Date.toDays_ofDays]
    congr 1 <;> omega
  · rw [if_neg h] at hleap
    rw [hleap, ofFields?_of_lt hvalid hymin hymax (by omega) (by omega) (by omega),
      Date.toDays_ofDays]
    congr 1
    omega

/-- The month and the day of a date of the calendar have two digits. -/
lemma month_lt_and_day_lt {d : Date} (h : d.isValid = true) : d.month < 100 ∧ d.day < 100 := by
  simp only [Date.isValid, Bool.and_eq_true, decide_eq_true_eq] at h
  obtain ⟨⟨⟨-, hm⟩, -⟩, hd⟩ := h
  have hlength : Date.daysInMonth d.year d.month ≤ 31 := by
    unfold Date.daysInMonth
    split
    · split <;> decide
    · split <;> decide
  omega

/-- The text of a point in time has the fields of its date and of its time of day, in which a leap
second counts as one more. -/
lemma chars_eq (t : Timestamp) {leap : Nat}
    (hleap : leap = if 1000000000 ≤ t.nanos then 1 else 0) :
    t.chars = yearText (Date.ofDays t.dayNumber).year ++ '-' ::
      (pad 2 (Date.ofDays t.dayNumber).month ++ '-' :: (pad 2 (Date.ofDays t.dayNumber).day ++
        'T' :: (pad 2 (t.secondOfDay.toNat / 3600) ++ ':' ::
          (pad 2 (t.secondOfDay.toNat / 60 % 60) ++ ':' ::
            (pad 2 (t.secondOfDay.toNat % 60 + leap) ++
              (fractionText (t.nanos - leap * 1000000000) ++ ['Z'])))))) := by
  subst hleap
  simp only [chars, List.append_assoc, List.cons_append]

/-- A text with these fields is read as the point in time that has them.

**Proof sketch.** Each field ends where a mark or the next field begins, so that the lemmas about
single fields can be applied from left to right. -/
lemma ofChars?_parts {y : Int} {month day h m s n : Nat} (hymin : -262143 ≤ y) (hymax : y ≤ 262142)
    (hmonth : month < 100) (hday : day < 100) (hh : h < 100) (hm : m < 100) (hs : s < 100)
    (hn : n < 1000000000) :
    ofChars? (yearText y ++ '-' :: (pad 2 month ++ '-' :: (pad 2 day ++
      'T' :: (pad 2 h ++ ':' :: (pad 2 m ++ ':' :: (pad 2 s ++ (fractionText n ++ ['Z']))))))) =
      ofFields? ⟨y, month, day⟩ h m s n 0 := by
  have hdash : isBlank '-' = false := by decide
  have hcolon : isBlank ':' = false := by decide
  have hz : trimStart ['Z'] = ['Z'] := by decide
  have hend : (trimStart []).isEmpty = true := rfl
  rw [ofChars?, year?_yearText hymin hymax]
  simp only [Option.bind_eq_bind]
  rw [Option.bind_some, mark?_cons hdash, Option.bind_some, field?_pad hmonth, Option.bind_some,
    mark?_cons hdash, Option.bind_some, field?_pad hday, Option.bind_some]
  simp only [true_or, if_true]
  rw [Option.bind_some, field?_pad hh, Option.bind_some, mark?_cons hcolon, Option.bind_some,
    field?_pad hm, Option.bind_some, mark?_cons hcolon, Option.bind_some, field?_pad hs,
    Option.bind_some, fraction?_fractionText hn, Option.bind_some, hz, offset?_utc,
    Option.bind_some, if_pos hend]

/-- **A point in time is read back from its text.** -/
theorem ofChars?_chars (t : Timestamp) : ofChars? t.chars = some t := by
  have hlo := t.min_le
  have hhi := t.le_max
  have hday : t.dayNumber = t.seconds / 86400 := rfl
  obtain ⟨hymin, hymax⟩ := Date.year_ofDays t.dayNumber (by omega) (by omega)
  obtain ⟨hmonth, hdom⟩ := month_lt_and_day_lt (Date.isValid_ofDays t.dayNumber)
  have hs : t.secondOfDay < 86400 := Int.emod_lt_of_pos _ (by decide)
  have hnanos := t.nanos_lt
  obtain ⟨leap, hleap⟩ : ∃ leap, leap = if 1000000000 ≤ t.nanos then 1 else 0 := ⟨_, rfl⟩
  have hleap1 : leap ≤ 1 := by split at hleap <;> omega
  have hfraction : t.nanos - leap * 1000000000 < 1000000000 := by split at hleap <;> omega
  rw [chars_eq t hleap, ofChars?_parts hymin hymax hmonth hdom (by omega) (by omega) (by omega)
    hfraction]
  exact ofFields?_fields t hleap

/-- A point in time is read back from its text. -/
@[simp] theorem ofString?_text (t : Timestamp) : ofString? t.text = some t := by
  rw [ofString?, text, String.toList_ofList, ofChars?_chars]

end ConversionScheduler.Timestamp
