import ConversionScheduler.Json.Value
import ConversionScheduler.Text.Utf8
/-!
# Reading JSON text

Text is read in two steps. The grammar gives a *tree*, in which numbers are still text, members
keep their order and repetitions, and a string may be unusable (it holds half of a surrogate pair
or broken UTF-8). The second step, from trees to values and records, is where sizes, ranges and
nesting are judged, so that data nobody looks at is held to the grammar alone.

## Main definitions

* `Json.NumberText`, `Json.Tree` — what the grammar gives.
* `Json.Tree.ofGlyphs?`, `Json.Tree.ofString?` — the tree of a whole text.
* `Json.NumberText.number?` — the number that a text stands for.
* `Json.Tree.value?` — the free-form value of a tree.
-/

namespace ConversionScheduler.Json

/-- The parts of a number as it is written. -/
structure NumberText where
  negative : Bool
  whole : List Char
  /-- The digits after the point; there is no point if there are none. -/
  fraction : List Char
  /-- Whether the exponent is negative, and its digits. -/
  exponent : Option (Bool × List Char)
deriving DecidableEq

/-- Text by the grammar of JSON alone. A string that is not a sequence of characters is `none`. -/
inductive Tree
  | null
  | bool (b : Bool)
  | number (n : NumberText)
  | string (s : Option String)
  | array (items : List Tree)
  | object (members : List (Option String × Tree))
deriving Inhabited

/-! ## The grammar -/

/-- White space between tokens. -/
def isSpace (g : Glyph) : Bool := g = some ' ' || g = some '\n' || g = some '\r' || g = some '\t'

/-- Drops white space in front. -/
def skipSpace (s : List Glyph) : List Glyph := s.dropWhile isSpace

/-- The value of a hexadecimal digit. -/
def hexValue (g : Glyph) : Option Nat :=
  g.bind fun c =>
    if '0' ≤ c ∧ c ≤ '9' then some (c.toNat - 48)
    else if 'a' ≤ c ∧ c ≤ 'f' then some (c.toNat - 87)
    else if 'A' ≤ c ∧ c ≤ 'F' then some (c.toNat - 55)
    else none

/-- The number of four hexadecimal digits. -/
def hex4 (a b c d : Glyph) : Option Nat := do
  return (((← hexValue a) * 16 + (← hexValue b)) * 16 + (← hexValue c)) * 16 + (← hexValue d)

/-- The character that a letter after a backslash stands for. -/
def unescape (c : Char) : Option Char :=
  if c = '"' then some '"' else if c = '\\' then some '\\' else if c = '/' then some '/'
  else if c = 'b' then some '\x08' else if c = 'f' then some '\x0c'
  else if c = 'n' then some '\n' else if c = 'r' then some '\r' else if c = 't' then some '\t'
  else none

/-- Puts a character in front of the string read so far. Behind half of a surrogate pair it makes
the string unusable. -/
def prepend (half : Option Nat) (c : Char) (r : Option (List Char) × List Glyph) :
    Option (List Char) × List Glyph :=
  (if half.isSome then none else r.1.map (c :: ·), r.2)

/-- A string and what follows it, from behind the opening quote. `half` is the first half of a
surrogate pair that was just read. `none` inside means that the string is well-formed but holds
something that is no character. -/
def stringAfter? : Option Nat → List Glyph → Option (Option (List Char) × List Glyph)
  | _, [] => none
  | _, none :: rest => (stringAfter? none rest).map fun r => (none, r.2)
  | half, some '"' :: rest => some (if half.isSome then none else some [], rest)
  | half, some '\\' :: some 'u' :: a :: b :: c :: d :: rest =>
    match hex4 a b c d with
    | none => none
    | some n =>
      if 0xD800 ≤ n ∧ n < 0xDC00 then
        (stringAfter? (some n) rest).map fun r => (if half.isSome then none else r.1, r.2)
      else if 0xDC00 ≤ n ∧ n < 0xE000 then
        (stringAfter? none rest).map fun r =>
          (half.bind fun m =>
            r.1.map (Char.ofNat (0x10000 + (m - 0xD800) * 0x400 + (n - 0xDC00)) :: ·), r.2)
      else (stringAfter? none rest).map (prepend half (Char.ofNat n))
  | half, some '\\' :: some c :: rest =>
    match unescape c with
    | none => none
    | some c' => (stringAfter? none rest).map (prepend half c')
  | half, some c :: rest =>
    if c.toNat < 32 || c = '\\' then none
    else (stringAfter? none rest).map (prepend half c)

/-- A string and what follows it, from behind the opening quote. -/
def string? (s : List Glyph) : Option (Option (List Char) × List Glyph) := stringAfter? none s

/-- The digits in front, and what follows them. -/
def glyphDigits : List Glyph → List Char × List Glyph
  | some c :: rest =>
    if Decimal.isDigit c then
      let (ds, rest') := glyphDigits rest
      (c :: ds, rest')
    else ([], some c :: rest)
  | s => ([], s)

/-- The digits in front, of which there has to be one. -/
def digits1? (s : List Glyph) : Option (List Char × List Glyph) :=
  let r := glyphDigits s
  if r.1.isEmpty then none else some r

/-- The exponent of a number, if there is one. -/
def exponent? : List Glyph → Option (Option (Bool × List Char) × List Glyph)
  | some c :: rest =>
    if c = 'e' ∨ c = 'E' then
      match rest with
      | some '+' :: rest' => (digits1? rest').map fun r => (some (false, r.1), r.2)
      | some '-' :: rest' => (digits1? rest').map fun r => (some (true, r.1), r.2)
      | rest' => (digits1? rest').map fun r => (some (false, r.1), r.2)
    else some (none, some c :: rest)
  | s => some (none, s)

/-- A number without its sign. No digit may follow a leading zero. -/
def unsigned? (negative : Bool) (s : List Glyph) : Option (NumberText × List Glyph) := do
  let (whole, rest) ← digits1? s
  if whole.head? = some '0' ∧ whole.length > 1 then none
  else
    let (fraction, rest) ← match rest with
      | some '.' :: rest' => digits1? rest'
      | _ => some ([], rest)
    let (exponent, rest) ← exponent? rest
    return (⟨negative, whole, fraction, exponent⟩, rest)

/-- A number and what follows it. -/
def number? : List Glyph → Option (NumberText × List Glyph)
  | some '-' :: rest => unsigned? true rest
  | s => unsigned? false s

/-- What follows a given word. -/
def word? (w : String) (s : List Glyph) : Option (List Glyph) :=
  let cs := w.toList.map some
  if cs.isPrefixOf s then some (s.drop cs.length) else none

mutual

/-- A value and what follows it. `fuel` bounds the length of the text. -/
def tree? : Nat → List Glyph → Option (Tree × List Glyph)
  | 0, _ => none
  | fuel + 1, s =>
    match skipSpace s with
    | some '"' :: rest => (string? rest).map fun r => (.string (r.1.map String.ofList), r.2)
    | some '[' :: rest =>
      match skipSpace rest with
      | some ']' :: rest' => some (.array [], rest')
      | rest' => (items? fuel rest').map fun r => (.array r.1, r.2)
    | some '\x7b' :: rest =>
      match skipSpace rest with
      | some '\x7d' :: rest' => some (.object [], rest')
      | rest' => (members? fuel rest').map fun r => (.object r.1, r.2)
    | some 'n' :: rest => (word? "ull" rest).map fun r => (.null, r)
    | some 't' :: rest => (word? "rue" rest).map fun r => (.bool true, r)
    | some 'f' :: rest => (word? "alse" rest).map fun r => (.bool false, r)
    | rest => (number? rest).map fun r => (.number r.1, r.2)

/-- The items of an array that is not empty, up to behind its bracket. -/
def items? : Nat → List Glyph → Option (List Tree × List Glyph)
  | 0, _ => none
  | fuel + 1, s =>
    match tree? fuel s with
    | none => none
    | some (t, rest) =>
      match skipSpace rest with
      | some ',' :: rest' => (items? fuel rest').map fun r => (t :: r.1, r.2)
      | some ']' :: rest' => some ([t], rest')
      | _ => none

/-- The members of an object that is not empty, up to behind its brace. -/
def members? : Nat → List Glyph → Option (List (Option String × Tree) × List Glyph)
  | 0, _ => none
  | fuel + 1, s =>
    match skipSpace s with
    | some '"' :: rest =>
      match string? rest with
      | none => none
      | some (key, rest) =>
        match skipSpace rest with
        | some ':' :: rest =>
          match tree? fuel rest with
          | none => none
          | some (t, rest) =>
            let m := (key.map String.ofList, t)
            match skipSpace rest with
            | some ',' :: rest' => (members? fuel rest').map fun r => (m :: r.1, r.2)
            | some '\x7d' :: rest' => some ([m], rest')
            | _ => none
        | _ => none
    | _ => none

end

/-- The tree of a text that is one value with white space around it. -/
def Tree.ofGlyphs? (s : List Glyph) : Option Tree :=
  match tree? (s.length + 1) s with
  | some (t, rest) => if (skipSpace rest).isEmpty then some t else none
  | none => none

/-- The tree of a text. -/
def Tree.ofString? (s : String) : Option Tree := Tree.ofGlyphs? (s.toList.map some)

/-- The tree of a sequence of octets. -/
def Tree.ofOctets? (octets : List UInt8) : Option Tree := Tree.ofGlyphs? (Utf8.glyphs octets)

/-! ## Numbers -/

/-- Takes digits into a significand while it stays below `2 ^ 64`, and returns those left over. -/
def takeSignificand (n : Nat) : List Char → Nat × List Char
  | [] => (n, [])
  | c :: rest =>
    let n' := n * 10 + Decimal.digitValue c
    if n' < 18446744073709551616 then takeSignificand n' rest else (n, c :: rest)

/-- The largest exponent that is kept apart from larger ones. -/
def maxExponent : Int := 2147483647

namespace NumberText

/-- A number with a point, an exponent, or more digits than 64 bits hold. Digits that do not fit
into the significand count as zeros. -/
def double? (t : NumberText) : Option Double :=
  let (w, surplus) := takeSignificand 0 t.whole
  let (s, left) := takeSignificand w t.fraction
  let e : Int := surplus.length - (t.fraction.length - left.length : Nat)
  match t.exponent with
  | none => Double.scaled? t.negative s.toUInt64 e
  | some (negative, ds) =>
    let x : Int := Decimal.ofDigits ds
    if maxExponent < x then
      if s ≠ 0 ∧ !negative then none else some (Double.zero t.negative)
    else
      let sum := if negative then e - x else e + x
      Double.scaled? t.negative s.toUInt64 (max (-maxExponent - 1) (min maxExponent sum))

/-- The number of a text: an integer if it is written as one and 64 bits hold it, a double
otherwise. Minus zero is a double. -/
def number? (t : NumberText) : Option Number :=
  let n := Decimal.ofDigits t.whole
  if t.fraction.isEmpty ∧ t.exponent.isNone ∧ n < 18446744073709551616 then
    if !t.negative then some (.integer n)
    else if n ≠ 0 ∧ n ≤ 9223372036854775808 then some (.integer (-n))
    else some (.double (Double.ofFloat (-n.toUInt64.toFloat)))
  else t.double?.map .double

end NumberText

/-! ## Values -/

mutual

/-- The free-form value of a tree, in which at most `depth` arrays and objects are nested. -/
def Tree.value? : Nat → Tree → Option Value
  | _, .null => some .null
  | _, .bool b => some (.bool b)
  | _, .number n => n.number?.map .number
  | _, .string s => s.map .string
  | 0, .array _ => none
  | depth + 1, .array ts => (values? depth ts).map .array
  | 0, .object _ => none
  | depth + 1, .object ms => (memberValues? depth ms).map Value.ofMembers

/-- The values of a list of trees. -/
def values? : Nat → List Tree → Option (List Value)
  | _, [] => some []
  | depth, t :: ts => do return (← t.value? depth) :: (← values? depth ts)

/-- The members of an object, keys and values. -/
def memberValues? : Nat → List (Option String × Tree) → Option (List (String × Value))
  | _, [] => some []
  | depth, (k, t) :: ms => do return (← k, ← t.value? depth) :: (← memberValues? depth ms)

end

/-- The number of arrays and objects that may be nested. -/
def maxDepth : Nat := 127

/-- The value of a text. -/
def value? (s : String) : Option Value := (Tree.ofString? s).bind (Tree.value? maxDepth)

end ConversionScheduler.Json
