/-!
# UTF-8 octets as characters

Octets that come from outside need not be UTF-8. They are read as *glyphs*: the characters of the
well-formed parts, and one `none` for each maximal broken part.

## Main definitions

* `Glyph` — a character, or a part that belongs to no character.
* `Utf8.glyphs` — the glyphs of a sequence of octets.
* `Utf8.lossy` — the text in which each broken part is shown as U+FFFD.
-/

namespace ConversionScheduler

/-- A character, or `none` for octets that belong to no character. -/
abbrev Glyph := Option Char

namespace Utf8

/-- The octets that may follow a leading octet: for each the least and the greatest value. -/
def followers (b : Nat) : Option (List (Nat × Nat)) :=
  let tail := (0x80, 0xBF)
  if b < 0x80 then some []
  else if b < 0xC2 then none
  else if b < 0xE0 then some [tail]
  else if b = 0xE0 then some [(0xA0, 0xBF), tail]
  else if b = 0xED then some [(0x80, 0x9F), tail]
  else if b < 0xF0 then some [tail, tail]
  else if b = 0xF0 then some [(0x90, 0xBF), tail, tail]
  else if b < 0xF4 then some [tail, tail, tail]
  else if b = 0xF4 then some [(0x80, 0x8F), tail, tail]
  else none

/-- The payload of a leading octet. -/
def payload (b : Nat) : Nat :=
  if b < 0x80 then b else if b < 0xE0 then b % 32 else if b < 0xF0 then b % 16 else b % 8

/-- Where reading stands between two octets: the followers still owed, and the payload so far. -/
structure Pending where
  owed : List (Nat × Nat)
  code : Nat

/-- Reads an octet as the first of a character. -/
def start (b : Nat) : List Glyph × Option Pending :=
  match followers b with
  | none => ([none], none)
  | some [] => ([some (Char.ofNat b)], none)
  | some owed => ([], some ⟨owed, payload b⟩)

/-- Reads one octet. One that cannot follow ends a broken part and starts anew. -/
def step : Option Pending → Nat → List Glyph × Option Pending
  | none, b => start b
  | some p, b =>
    match p.owed with
    | [] => start b
    | (low, high) :: owed =>
      if low ≤ b ∧ b ≤ high then
        let code := p.code * 64 + b % 64
        match owed with
        | [] => ([some (Char.ofNat code)], none)
        | _ => ([], some ⟨owed, code⟩)
      else
        let (out, next) := start b
        (none :: out, next)

/-- The glyphs of the octets that follow `pending`. -/
def glyphsFrom : Option Pending → List UInt8 → List Glyph
  | none, [] => []
  | some _, [] => [none]
  | pending, b :: rest =>
    let (out, next) := step pending b.toNat
    out ++ glyphsFrom next rest

/-- The glyphs of a sequence of octets. -/
def glyphs (octets : List UInt8) : List Glyph := glyphsFrom none octets

/-- The text of a sequence of octets, each broken part shown as U+FFFD. -/
def lossy (octets : List UInt8) : String :=
  String.ofList ((glyphs octets).map fun g => g.getD '\uFFFD')

/-- The octets of a text. -/
def encode (s : String) : List UInt8 := s.toUTF8.toList

end Utf8

end ConversionScheduler
