import ConversionScheduler.Toml.Scalar
/-!
# Numbers in plain text

A setting may arrive as bare text. It counts as a number if all of it is one: digits with a sign
in front, or a float with a point, an exponent, or one of the words for infinity and for no number.

## Main definitions

* `Plain.natural?`, `Plain.integer?`, `Plain.float?` — the number that a text stands for.
* `Double.roundToNat` — the nearest natural number.
-/

namespace ConversionScheduler

/-! ## Rounding -/

/-- The natural number nearest to a double, with halves away from zero. What is negative or no
number counts as zero, and what is too large as the largest number of 64 bits. -/
def Double.roundToNat (d : Double) : Nat :=
  if d.isNegative then 0
  else if d.isFinite then
    let n :=
      if 0 ≤ d.scale then d.significand * Nat.pow 2 d.scale.toNat
      else (d.significand + Nat.pow 2 (-d.scale - 1).toNat) / Nat.pow 2 (-d.scale).toNat
    min n 18446744073709551615
  else if d.fractionField = 0 then 18446744073709551615 else 0

/-- Whether a double differs from zero. What is no number does. -/
def Double.isNonzero (d : Double) : Bool := !d.isFinite || d.significand != 0

namespace Plain

/-! ## Integers -/

/-- Takes off a sign. The first part says whether it is negative. -/
def takeSign : List Char → Bool × List Char
  | '+' :: rest => (false, rest)
  | '-' :: rest => (true, rest)
  | cs => (false, cs)

/-- The number of a text that holds digits only, and at least one. -/
def digits? (cs : List Char) : Option Nat :=
  if cs.isEmpty || !cs.all Decimal.isDigit then none else some (Decimal.ofDigits cs)

/-- A natural number of 64 bits. It may have a plus sign. -/
def natural? (cs : List Char) : Option Nat :=
  let n := match cs with
    | '+' :: rest => digits? rest
    | _ => digits? cs
  n.filter (· < 18446744073709551616)

/-- The integers of 64 bits. -/
def inRange (n : Int) : Bool := -9223372036854775808 ≤ n && n < 9223372036854775808

/-- An integer of 64 bits. -/
def integer? (cs : List Char) : Option Int :=
  let (negative, rest) := takeSign cs
  ((digits? rest).map fun n => if negative then -(n : Int) else n).filter inRange

/-! ## Floats -/

/-- Infinity with a sign. -/
def infinity (negative : Bool) : Double :=
  ⟨if negative then 0xFFF0000000000000 else 0x7FF0000000000000⟩

/-- The lower case of an ASCII letter. -/
def lower (c : Char) : Char := if 'A' ≤ c ∧ c ≤ 'Z' then Char.ofNat (c.toNat + 32) else c

/-- The value of a word that stands for a float. -/
def word? (negative : Bool) (cs : List Char) : Option Double :=
  let w := String.ofList (cs.map lower)
  if w = "inf" ∨ w = "infinity" then some (infinity negative)
  else if w = "nan" then some ⟨0x7FF8000000000000⟩
  else none

/-- The exponent of a float, behind its letter. -/
def exponent? (cs : List Char) : Option Int :=
  let (negative, rest) := takeSign cs
  (digits? rest).map fun n => if negative then -(n : Int) else n

/-- A float in digits, without its sign: digits, perhaps with a point among them or at one of
their ends, and perhaps an exponent. -/
def figures? (negative : Bool) (cs : List Char) : Option Double := do
  let (mantissa, power) := Toml.Scalar.splitOnce (fun c => c = 'e' || c = 'E') cs
  let (whole, fraction) := Toml.Scalar.splitOnce (· = '.') mantissa
  let places := fraction.getD []
  let n ← digits? (whole ++ places)
  let e ← match power with
    | none => some 0
    | some p => exponent? p
  return (Double.ofDecimal? negative n (e - places.length)).getD (infinity negative)

/-- A float. What is beyond the largest one counts as infinite. -/
def float? (cs : List Char) : Option Double :=
  let (negative, rest) := takeSign cs
  match word? negative rest with
  | some d => some d
  | none => figures? negative rest

end Plain

end ConversionScheduler
