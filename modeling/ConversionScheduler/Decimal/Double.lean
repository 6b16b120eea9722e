import ConversionScheduler.Decimal.Digits
/-!
# Doubles and their shortest decimals

A double is kept by its bits, so that it can be compared and computed with in proofs. Its decimal
text is built from the fewest digits that round back to it.

## Main definitions

* `Double` — an IEEE double, given by its bits.
* `Double.shortest` — the fewest decimal digits that round to a double, and of those the nearest.
* `Double.scaled?` — a 64 bit significand times a power of ten, in double arithmetic.
* `Double.scientificText`, `Double.positionalText` — the two ways of writing a double.
-/

namespace ConversionScheduler

/-- A double, given by its bits. -/
structure Double where
  bits : UInt64
deriving DecidableEq, Inhabited

namespace Double

/-- The double of a machine number. -/
def ofFloat (f : Float) : Double := ⟨f.toBits⟩

/-- Whether the sign bit is set. -/
def isNegative (d : Double) : Bool := d.bits >>> 63 != 0

/-- The exponent field. -/
def exponentField (d : Double) : Nat := (d.bits >>> 52).toNat % 2048

/-- The fraction field. -/
def fractionField (d : Double) : Nat := d.bits.toNat % 4503599627370496

/-- Whether the double is a number, neither infinite nor undefined. -/
def isFinite (d : Double) : Bool := d.exponentField != 2047

/-- The integer significand `m` of the absolute value `m · 2 ^ scale`. -/
def significand (d : Double) : Nat :=
  if d.exponentField = 0 then d.fractionField else 4503599627370496 + d.fractionField

/-- The binary exponent of the absolute value `significand · 2 ^ scale`. -/
def scale (d : Double) : Int :=
  if d.exponentField = 0 then -1074 else (d.exponentField : Int) - 1075

/-! ## The fewest digits -/

/-- A positive decimal number `digits · 10 ^ exponent`. -/
structure Figures where
  digits : Nat
  exponent : Int
deriving DecidableEq

/-- Moves trailing zeros from the digits to the exponent. -/
def Figures.strip (d : Figures) : Figures :=
  if h : d.digits ≠ 0 ∧ d.digits % 10 = 0 then
    Figures.strip ⟨d.digits / 10, d.exponent + 1⟩
  else d
termination_by d.digits
decreasing_by
  have : 0 < d.digits := Nat.pos_of_ne_zero h.1
  show d.digits / 10 < d.digits
  omega

/-- The interval of reals that round to a double, in quarters of its last place. -/
structure Interval where
  low : Nat
  value : Nat
  high : Nat
  /-- Whether the ends belong to the interval. -/
  closed : Bool

/-- The reals that round to a nonzero double. The gap below a power of two is half as wide. -/
def interval (d : Double) : Interval :=
  let m := d.significand
  let narrow := d.fractionField = 0 && d.exponentField > 1
  ⟨if narrow then 4 * m - 1 else 4 * m - 2, 4 * m, 4 * m + 2, m % 2 = 0⟩

/-- Twice the binary exponent of the interval's unit, as the two factors of a fraction. -/
def unit (d : Double) : Nat × Nat :=
  let e := d.scale - 2
  (Nat.pow 2 e.toNat, Nat.pow 2 (-e).toNat)

/-- The number of decimal places to the left of the point of `a / b`, for `a, b > 0`. -/
def magnitude (a b : Nat) : Int :=
  if b ≤ a then (Decimal.digits (a / b)).length
  else
    let t : Int := (Decimal.digits (b / a)).length
    -- `10 ^ (t - 1) ≤ b / a`, so `a / b ≤ 10 ^ (1 - t)`, with equality only for a power of ten
    if a * Nat.pow 10 (t - 1).toNat = b then 2 - t else 1 - t

/-- The neighbours of the double on the grid `10 ^ k` that round to it, the nearer one first. -/
def onGrid? (d : Double) (k : Int) : Option Nat :=
  let i := d.interval
  let up := d.unit.1 * Nat.pow 10 (-k).toNat
  let down := d.unit.2 * Nat.pow 10 k.toNat
  let inside (c : Nat) : Bool :=
    if i.closed then i.low * up ≤ c * down && c * down ≤ i.high * up
    else i.low * up < c * down && c * down < i.high * up
  let c := i.value * up / down
  let below := i.value * up - c * down
  let above := (c + 1) * down - i.value * up
  let first := below < above || (below = above && c % 2 = 0)
  if first then
    if inside c then some c else if inside (c + 1) then some (c + 1) else none
  else
    if inside (c + 1) then some (c + 1) else if inside c then some c else none

/-- The first grid of `digits` or more digits on which the double has a neighbour. -/
def shortestFrom (d : Double) (places : Int) : Nat → Nat → Figures
  | 0, digits => ⟨(d.onGrid? (places - digits)).getD 0, places - digits⟩
  | fuel + 1, digits =>
    match d.onGrid? (places - digits) with
    | some c => ⟨c, places - digits⟩
    | none => shortestFrom d places fuel (digits + 1)

/-- The fewest decimal digits that round to the absolute value of a nonzero double; of those the
nearest, and at equal distance the even one. Seventeen digits always suffice. -/
def shortest (d : Double) : Figures :=
  let places := magnitude (d.interval.value * d.unit.1) d.unit.2
  (d.shortestFrom places 16 1).strip

/-! ## Reading -/

/-- The double nearest to `10 ^ n`, for `n ≤ 308`. -/
def powerOfTen (n : Nat) : Float := Float.ofScientific 1 false n

/-- Multiplies `f` by `10 ^ e`, one double operation for every factor up to `10 ^ 308`. There is
no result above the largest double. -/
def scaleFloat? (f : Float) (e : Int) : Option Float :=
  if e.natAbs ≤ 308 then
    if 0 ≤ e then
      let g := f * powerOfTen e.natAbs
      if g.isInf then none else some g
    else some (f / powerOfTen e.natAbs)
  else if f == 0 then some f
  else if 0 ≤ e then none
  else scaleFloat? (f / powerOfTen 308) (e + 308)
termination_by e.natAbs
decreasing_by omega

/-- The double `± significand · 10 ^ e`. The significand is rounded to a double before it is
scaled, so the result may be off by an ulp. -/
def scaled? (negative : Bool) (significand : UInt64) (e : Int) : Option Double :=
  (scaleFloat? significand.toFloat e).map fun f => ofFloat (if negative then -f else f)

/-- Zero with a sign. -/
def zero (negative : Bool) : Double := ⟨if negative then 0x8000000000000000 else 0⟩

/-! ## Writing -/

/-- A minus sign for a negative double. -/
def sign (d : Double) : List Char := if d.isNegative then ['-'] else []

/-- Digits and a decimal point: `digits · 10 ^ exponent` without an exponent. `whole` is what
follows the digits of an integer. -/
def positional (x : Figures) (whole : List Char) : List Char :=
  let ds := Decimal.digits x.digits
  if 0 ≤ x.exponent then ds ++ List.replicate x.exponent.toNat '0' ++ whole
  else
    let point : Int := ds.length + x.exponent
    if 0 < point then ds.take point.toNat ++ '.' :: ds.drop point.toNat
    else '0' :: '.' :: List.replicate (-point).toNat '0' ++ ds

/-- One digit, the other digits after a point, and a signed exponent. -/
def scientific (x : Figures) : List Char :=
  let ds := Decimal.digits x.digits
  let e : Int := x.exponent + ds.length - 1
  let mantissa := match ds with
    | [] => []
    | [c] => [c]
    | c :: rest => c :: '.' :: rest
  mantissa ++ 'e' :: (if 0 ≤ e then '+' :: Decimal.digits e.toNat
    else '-' :: Decimal.digits (-e).toNat)

/-- A finite double, positional from `0.00001` up to below `10 ^ 16` and with `.0` after a whole
number, in scientific form otherwise. -/
def scientificText (d : Double) : List Char :=
  if d.significand = 0 then d.sign ++ ['0', '.', '0']
  else
    let x := d.shortest
    let point : Int := (Decimal.digits x.digits).length + x.exponent
    d.sign ++ if -5 < point ∧ point ≤ 16 then positional x ['.', '0'] else scientific x

/-- A double without an exponent, whatever its size; a whole number has no point. -/
def positionalText (d : Double) : List Char :=
  if d.isFinite then
    if d.significand = 0 then d.sign ++ ['0'] else d.sign ++ positional d.shortest []
  else if d.fractionField = 0 then d.sign ++ ['i', 'n', 'f'] else ['N', 'a', 'N']

end Double

end ConversionScheduler
