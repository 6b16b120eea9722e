import ConversionScheduler.Decimal.Digits
/-!
# Punycode

A label of a domain name with characters outside ASCII is written with those of ASCII: first the
characters that are ASCII anyway, then, in ascending order, where each of the others is to be
inserted, as differences in base 36 with thresholds that adapt.

## Main definitions

* `Punycode.encode` — the ASCII form of a label.
* `Punycode.decode?` — the label of an ASCII form.
-/

namespace ConversionScheduler.Punycode

/-- The character of a digit below 36. -/
def digitChar (d : Nat) : Char := if d < 26 then Char.ofNat (97 + d) else Char.ofNat (22 + d)

/-- The value of a digit. -/
def digitValue? (c : Char) : Option Nat :=
  if 'a' ≤ c ∧ c ≤ 'z' then some (c.toNat - 97)
  else if 'A' ≤ c ∧ c ≤ 'Z' then some (c.toNat - 65)
  else if Decimal.isDigit c then some (c.toNat - 22)
  else none

/-- The threshold of the digit at position `k`, which is counted in steps of 36. -/
def threshold (k bias : Nat) : Nat := max 1 (min 26 (k - bias))

/-- A threshold is at least 1, so that every division makes the rest smaller. -/
theorem threshold_pos (k bias : Nat) : 1 ≤ threshold k bias := by unfold threshold; omega

/-- Divides by 35 until the rest is small. Each division counts for 36. -/
def settle (delta steps : Nat) : Nat :=
  if h : 455 < delta then settle (delta / 35) (steps + 36)
  else steps + 36 * delta / (delta + 38)
termination_by delta
decreasing_by exact Nat.div_lt_self (by omega) (by omega)

/-- The next bias, when `delta` led to the `count`th character. -/
def adapt (delta count : Nat) (first : Bool) : Nat :=
  let d := if first then delta / 700 else delta / 2
  settle (d + d / count) 0

/-- The digits of a difference. -/
def deltaDigits (bias k q : Nat) : List Char :=
  let t := threshold k bias
  if h : q < t then [digitChar q]
  else digitChar (t + (q - t) % (36 - t)) :: deltaDigits bias (k + 36) ((q - t) / (36 - t))
termination_by q
decreasing_by
  have := threshold_pos k bias
  calc (q - threshold k bias) / (36 - threshold k bias)
      ≤ q - threshold k bias := Nat.div_le_self _ _
    _ < q := by omega

/-- Where encoding stands: the characters handled, the difference so far, the bias, the output. -/
structure Progress where
  handled : Nat
  delta : Nat
  bias : Nat
  out : List Char

/-- Passes over one character while `code` is being inserted. -/
def passOver (basic code : Nat) (p : Progress) (c : Char) : Progress :=
  if c.toNat < code then { p with delta := p.delta + 1 }
  else if c.toNat = code then
    ⟨p.handled + 1, 0, adapt p.delta (p.handled + 1) (p.handled = basic),
      p.out ++ deltaDigits p.bias 36 p.delta⟩
  else p

/-- Inserts every occurrence of the codes, which ascend from `next` on. -/
def insertCodes (label : List Char) (basic : Nat) : List Nat → Nat → Progress → Progress
  | [], _, p => p
  | code :: rest, next, p =>
    let p := { p with delta := p.delta + (code - next) * (p.handled + 1) }
    let p := label.foldl (passOver basic code) p
    insertCodes label basic rest (code + 1) { p with delta := p.delta + 1 }

/-- Adds a code to an ascending list. -/
def insertCode (n : Nat) : List Nat → List Nat
  | [] => [n]
  | m :: rest =>
    if n < m then n :: m :: rest else if n = m then m :: rest else m :: insertCode n rest

/-- The ASCII form of a label. -/
def encode (label : List Char) : List Char :=
  let ascii := label.filter (·.toNat < 128)
  let codes := (label.filter (128 ≤ ·.toNat)).foldr (fun c acc => insertCode c.toNat acc) []
  ascii ++ (if ascii.isEmpty then [] else ['-']) ++
    (insertCodes label ascii.length codes 128 ⟨ascii.length, 0, 72, []⟩).out

/-- Reads one difference: its value and what follows it. -/
def delta? (bias : Nat) : Nat → Nat → Nat → List Char → Option (Nat × List Char)
  | _, _, _, [] => none
  | k, weight, value, c :: rest =>
    match digitValue? c with
    | none => none
    | some d =>
      let t := threshold k bias
      if d < t then some (value + d * weight, rest)
      else delta? bias (k + 36) (weight * (36 - t)) (value + d * weight) rest

/-- Puts characters into a label, each where the difference says. `fuel` bounds their number. -/
def place? : Nat → List Char → Nat → Nat → Nat → List Char → Option (List Char)
  | _, label, _, _, _, [] => some label
  | 0, _, _, _, _, _ => none
  | fuel + 1, label, code, start, bias, c :: rest =>
    match delta? bias 36 1 0 (c :: rest) with
    | none => none
    | some (d, rest') =>
      let count := label.length + 1
      let position := start + d
      let code' := code + position / count
      if code' < 0x110000 ∧ ¬ (0xD800 ≤ code' ∧ code' < 0xE000) then
        let i := position % count
        place? fuel (label.take i ++ Char.ofNat code' :: label.drop i) code' (i + 1)
          (adapt d count (start = 0)) rest'
      else none

/-- The label of an ASCII form. -/
def decode? (cs : List Char) : Option (List Char) :=
  let tail := (cs.reverse.takeWhile (· ≠ '-')).reverse
  let ascii := (cs.take (cs.length - tail.length)).dropLast
  place? tail.length ascii 128 0 72 tail

end ConversionScheduler.Punycode
