/-!
# Tables of characters

Tables of characters are written as texts: words with blanks between them, in which characters are
named by their code points in hexadecimal.

## Main definitions

* `words`, `hexadecimal` — what the texts are made of.
* `Runs`, `Runs.ofText` — sets of characters, written as `41-5A 5F 61-7A`.
* `Runs.contains` — whether a character is in a set.
-/

namespace ConversionScheduler.Unicode

/-- Puts a character in front of words. A blank or the end of a line begins a new word. -/
def addToWords (c : Char) (ws : List (List Char)) : List (List Char) :=
  if c = ' ' || c = '\n' then [] :: ws
  else
    match ws with
    | [] => [[c]]
    | w :: rest => (c :: w) :: rest

/-- The words of a text. -/
def words (s : String) : List (List Char) :=
  (s.toList.foldr addToWords []).filter (!·.isEmpty)

/-- The value of a hexadecimal digit in upper case. -/
def digit (c : Char) : Nat := if c.toNat < 58 then c.toNat - 48 else c.toNat - 55

/-- The number that hexadecimal digits stand for. -/
def hexadecimal (ds : List Char) : Nat := ds.foldl (fun n d => n * 16 + digit d) 0

/-- A set of characters: runs of code points, each by its first and its last. -/
structure Runs where
  list : List (Nat × Nat)
deriving DecidableEq, Inhabited

namespace Runs

/-- The run of a word: one code point, or the first and the last with a hyphen between. -/
def ofWord (w : List Char) : Nat × Nat :=
  let first := hexadecimal (w.takeWhile (· ≠ '-'))
  match w.dropWhile (· ≠ '-') with
  | [] => (first, first)
  | _ :: last => (first, hexadecimal last)

/-- The set that a text lists. -/
def ofText (s : String) : Runs := ⟨(words s).map ofWord⟩

/-- Whether a character is in the set. -/
def contains (rs : Runs) (c : Char) : Bool :=
  rs.list.any fun r => r.1 ≤ c.toNat && c.toNat ≤ r.2

end Runs

end ConversionScheduler.Unicode
