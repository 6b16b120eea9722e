import ConversionScheduler.Decimal.Digits
import Mathlib.Algebra.Ring.Nat
import Mathlib.Tactic.Common
/-!
# The digits of a number

How long the decimal digits of a number are, and how they begin. What is written with a fixed width
has exactly that width as long as the number fits.

## Main results

* `Decimal.length_pad`, `Decimal.ofDigits_pad` — numbers written with a width.
* `Decimal.head_digits` — only zero is written with a zero in front.
-/

namespace ConversionScheduler.Decimal

/-- Every number has a digit. -/
lemma digits_ne_nil (n : Nat) : digits n ≠ [] := by
  rw [digits]
  split <;> simp

/-- The places of a number below a power of ten. -/
lemma length_digits_le {w n : Nat} (hw : 0 < w) (hn : n < 10 ^ w) : (digits n).length ≤ w := by
  induction w generalizing n with
  | zero => exact absurd hw (Nat.lt_irrefl 0)
  | succ w ih =>
    rw [digits]
    split
    · simp
    · rename_i h10
      have hpos : 0 < w := by
        rcases Nat.eq_zero_or_pos w with rfl | hpos
        · simp at hn; omega
        · exact hpos
      have hlt : n / 10 < 10 ^ w := by
        rw [Nat.pow_succ] at hn
        omega
      have hlen := ih hpos hlt
      simp only [List.length_append, List.length_singleton]
      omega

/-- A number that fits is written with the width it is given. -/
lemma length_pad {w n : Nat} (hw : 0 < w) (hn : n < 10 ^ w) : (pad w n).length = w := by
  have hle := length_digits_le hw hn
  simp only [pad, List.length_append, List.length_replicate]
  omega

/-- A padded number consists of digits. -/
lemma isDigit_of_mem_pad {w n : Nat} {c : Char} (hc : c ∈ pad w n) : isDigit c = true := by
  rcases List.mem_append.mp hc with h | h
  · rw [List.eq_of_mem_replicate h]
    decide
  · exact isDigit_of_mem_digits h

/-- Zeros in front do not count. -/
lemma ofDigits_pad (w n : Nat) : ofDigits (pad w n) = n := by
  have hzeros : ∀ k, ∀ cs : List Char, ofDigits (List.replicate k '0' ++ cs) = ofDigits cs := by
    intro k cs
    induction k with
    | zero => rfl
    | succ k ih => simpa [List.replicate_succ, ofDigits, digitValue] using ih
  exact (hzeros _ _).trans (ofDigits_digits n)

/-- Only zero is written with a zero in front. -/
lemma head_digits {n : Nat} (hn : (digits n).head? = some '0') : n = 0 := by
  induction n using digits.induct with
  | case1 n h =>
    rw [digits, if_pos h] at hn
    have : ∀ d : Fin 10, digitChar d.val = '0' → d.val = 0 := by decide
    exact this ⟨n, h⟩ (by simpa using hn)
  | case2 n h ih =>
    have hhead : (digits (n / 10)).head? = some '0' := by
      rw [digits, if_neg h, List.head?_append] at hn
      cases hd : digits (n / 10) with
      | nil => exact absurd hd (digits_ne_nil _)
      | cons c cs => simpa [hd] using hn
    have := ih hhead
    omega

end ConversionScheduler.Decimal
