import ConversionScheduler.Text.Utf8
/-!
# Percent encoding

Characters that may not stand for themselves in a part of a URL are written as the octets of their
UTF-8 form, each as `%` and two hexadecimal digits.

## Main definitions

* `Percent.encode` — a text with the reserved characters written as octets.
* `Percent.decode` — the octets that a text stands for.
* `Percent.inUser`, `Percent.inPath`, `Percent.inSegment`, `Percent.inQuery`, `Percent.inFragment` —
  what is reserved in the parts of a URL.
-/

namespace ConversionScheduler.Percent

/-- The upper case hexadecimal digit of `d < 16`. -/
def hexDigit (d : Nat) : Char := if d < 10 then Char.ofNat (48 + d) else Char.ofNat (55 + d)

/-- An octet in its written form. -/
def octet (b : UInt8) : List Char := ['%', hexDigit (b.toNat / 16), hexDigit (b.toNat % 16)]

/-- A character of a part in which `reserved` characters may not stand. Control characters and
those outside ASCII may stand nowhere. -/
def encodeChar (reserved : Char → Bool) (c : Char) : List Char :=
  if c.toNat < 0x20 || 0x7F ≤ c.toNat || reserved c then (String.utf8EncodeChar c).flatMap octet
  else [c]

/-- A text as it is written in a part in which `reserved` characters may not stand. -/
def encode (reserved : Char → Bool) (cs : List Char) : List Char := cs.flatMap (encodeChar reserved)

/-- The value of a hexadecimal digit. -/
def hexValue? (c : Char) : Option Nat :=
  if '0' ≤ c ∧ c ≤ '9' then some (c.toNat - 48)
  else if 'A' ≤ c ∧ c ≤ 'F' then some (c.toNat - 55)
  else if 'a' ≤ c ∧ c ≤ 'f' then some (c.toNat - 87)
  else none

/-- The octet that two digits behind a `%` stand for. -/
def octet? (a b : Char) : Option UInt8 :=
  match hexValue? a, hexValue? b with
  | some m, some n => some (UInt8.ofNat (m * 16 + n))
  | _, _ => none

/-- The octets of a text. A `%` without two digits stands for itself. -/
def decode : List Char → List UInt8
  | [] => []
  | '%' :: a :: b :: rest =>
    match octet? a b with
    | some n => n :: decode rest
    | none => String.utf8EncodeChar '%' ++ decode (a :: b :: rest)
  | c :: rest => String.utf8EncodeChar c ++ decode rest

/-! ## Reserved characters -/

/-- What may not stand in a path. -/
def inPath (c : Char) : Bool :=
  [' ', '"', '#', '<', '>', '?', '\x60', '\x7b', '\x7d'].contains c

/-- What may not stand in the name or the password of a user. -/
def inUser (c : Char) : Bool :=
  inPath c || ['/', ':', ';', '=', '@', '[', '\\', ']', '^', '|'].contains c

/-- What may not stand in a single segment of a path. -/
def inSegment (c : Char) : Bool := inPath c || ['/', '%', '\\'].contains c

/-- What may not stand in a query. -/
def inQuery (c : Char) : Bool := [' ', '"', '#', '<', '>', '\x27'].contains c

/-- What may not stand in a fragment. -/
def inFragment (c : Char) : Bool := [' ', '"', '<', '>', '\x60'].contains c

end ConversionScheduler.Percent
