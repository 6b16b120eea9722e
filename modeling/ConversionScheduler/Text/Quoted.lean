import ConversionScheduler.Unicode.Property
/-!
# Quoted text

In diagnostic messages a text stands in quotes. Characters that could not be seen there, or that
would join with their neighbours, are written as their numbers.

## Main definitions

* `isUnseen` — the characters that are written as numbers.
* `quoted` — a text in quotes.
-/

namespace ConversionScheduler

open Unicode

/-- Whether a character is written as its number: it cannot be seen, or it joins with the one
before it. -/
def isUnseen (c : Char) : Bool :=
  if c.toNat < 0x7F then c.toNat < 0x20
  else (Category.of c).isInvisible || joinsPrevious c || isFiller c

/-- A character as it stands between quotes. -/
def quotedChar (c : Char) : List Char :=
  if c = '"' then ['\\', '"']
  else if c = '\\' then ['\\', '\\']
  else if c = '\n' then ['\\', 'n']
  else if c = '\r' then ['\\', 'r']
  else if c = '\t' then ['\\', 't']
  else if c = '\x00' then ['\\', '0']
  else if isUnseen c then '\\' :: 'u' :: '\x7b' :: Nat.toDigits 16 c.toNat ++ ['\x7d']
  else [c]

/-- A text in quotes. -/
def quoted (s : String) : String := String.ofList ('"' :: s.toList.flatMap quotedChar ++ ['"'])

end ConversionScheduler
