/-!
# Decimal digits

Natural numbers as the lists of their decimal digits, most significant first.

## Main definitions

* `digits` — the digits of a number, without leading zeros.
* `ofDigits` — the number that a list of digits stands for.
* `pad` — the digits of a number, filled up with zeros to a width.

## Main results

* `ofDigits_digits` — reading the digits of `n` gives `n`.
-/

namespace ConversionScheduler.Decimal

/-- The digit `d`, for `d < 10`. -/
def digitChar (d : Nat) : Char := Char.ofNat (48 + d)

/-- The value of a decimal digit. -/
def digitValue (c : Char) : Nat := c.toNat - 48

/-- Whether `c` is one of the ten ASCII digits. -/
def isDigit (c : Char) : Bool := '0' ≤ c && c ≤ '9'

/-- The decimal digits of `n`, most significant first; zero has one digit. -/
def digits (n : Nat) : List Char :=
  if n < 10 then [digitChar n] else digits (n / 10) ++ [digitChar (n % 10)]
termination_by n

/-- The number whose decimal digits are `cs`. -/
def ofDigits (cs : List Char) : Nat := cs.foldl (fun n c => n * 10 + digitValue c) 0

/-- The digits of `n` with zeros in front, at least `width` in all. -/
def pad (width n : Nat) : List Char :=
  let ds := digits n
  List.replicate (width - ds.length) '0' ++ ds

/-- The decimal text of an integer, with a minus sign in front of a negative one. -/
def integer (n : Int) : List Char :=
  match n with
  | .ofNat m => digits m
  | .negSucc m => '-' :: digits (m + 1)

/-- The decimal text of a natural number. -/
def text (n : Nat) : String := String.ofList (digits n)

/-- Splits off the digits in front. -/
def takeDigits : List Char → List Char × List Char
  | [] => ([], [])
  | c :: rest =>
    if isDigit c then
      let (ds, rest') := takeDigits rest
      (c :: ds, rest')
    else ([], c :: rest)

/-! ## Reading what was written -/

/-- The value of a digit is read back from its character. -/
theorem digitValue_digitChar {d : Nat} (h : d < 10) : digitValue (digitChar d) = d := by
  have : ∀ d : Fin 10, digitValue (digitChar d.val) = d.val := by decide
  exact this ⟨d, h⟩

/-- The characters of digits are recognized. -/
theorem isDigit_digitChar {d : Nat} (h : d < 10) : isDigit (digitChar d) = true := by
  have : ∀ d : Fin 10, isDigit (digitChar d.val) = true := by decide
  exact this ⟨d, h⟩

/-- One more digit at the end multiplies the number by ten and adds the digit. -/
theorem ofDigits_append (cs : List Char) (c : Char) :
    ofDigits (cs ++ [c]) = ofDigits cs * 10 + digitValue c := by
  simp [ofDigits, List.foldl_append]

/-- Reading the digits of `n` gives `n`. -/
theorem ofDigits_digits (n : Nat) : ofDigits (digits n) = n := by
  induction n using digits.induct with
  | case1 n h =>
    rw [digits, if_pos h]
    simp [ofDigits, digitValue_digitChar h]
  | case2 n h ih =>
    rw [digits, if_neg h, ofDigits_append, ih, digitValue_digitChar (Nat.mod_lt n (by decide))]
    omega

/-- Every character of `digits n` is a digit. -/
theorem isDigit_of_mem_digits {n : Nat} {c : Char} (hc : c ∈ digits n) : isDigit c = true := by
  induction n using digits.induct with
  | case1 n h =>
    rw [digits, if_pos h] at hc
    simp at hc
    exact hc ▸ isDigit_digitChar h
  | case2 n h ih =>
    rw [digits, if_neg h] at hc
    simp at hc
    rcases hc with hc | hc
    · exact ih hc
    · exact hc ▸ isDigit_digitChar (Nat.mod_lt n (by decide))

end ConversionScheduler.Decimal
