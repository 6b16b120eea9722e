import ConversionScheduler.Json.Value
/-!
# JSON text

Values are written without spaces, members in their order. In strings only the quote, the
backslash and the control characters below U+0020 are escaped.

## Main definitions

* `Json.render` — the text of a value.
-/

namespace ConversionScheduler.Json

/-- The lower case hexadecimal digit of `d < 16`. -/
def hexDigit (d : Nat) : Char := if d < 10 then Char.ofNat (48 + d) else Char.ofNat (87 + d)

/-- A character as it stands in a string. -/
def escape (c : Char) : List Char :=
  if c = '"' then ['\\', '"']
  else if c = '\\' then ['\\', '\\']
  else if c = '\n' then ['\\', 'n']
  else if c = '\r' then ['\\', 'r']
  else if c = '\t' then ['\\', 't']
  else if c.toNat = 8 then ['\\', 'b']
  else if c.toNat = 12 then ['\\', 'f']
  else if c.toNat < 32 then ['\\', 'u', '0', '0', hexDigit (c.toNat / 16), hexDigit (c.toNat % 16)]
  else [c]

/-- The characters of a string with the escapes in place, followed by the closing quote. -/
def escaped : List Char → List Char
  | [] => ['"']
  | c :: rest => escape c ++ escaped rest

/-- A quoted string. -/
def quote (s : String) : List Char := '"' :: escaped s.toList

/-- A number. -/
def renderNumber : Number → List Char
  | .integer n => Decimal.integer n
  | .double d => d.scientificText

mutual

/-- The characters of a value. -/
def renderChars : Value → List Char
  | .null => ['n', 'u', 'l', 'l']
  | .bool true => ['t', 'r', 'u', 'e']
  | .bool false => ['f', 'a', 'l', 's', 'e']
  | .number n => renderNumber n
  | .string s => quote s
  | .array [] => ['[', ']']
  | .array (v :: rest) => '[' :: (renderChars v ++ renderItems rest)
  | .object [] => ['\x7b', '\x7d']
  | .object ((k, v) :: rest) => '\x7b' :: (quote k ++ ':' :: (renderChars v ++ renderMembers rest))

/-- The items after the first one, and the closing bracket. -/
def renderItems : List Value → List Char
  | [] => [']']
  | v :: rest => ',' :: (renderChars v ++ renderItems rest)

/-- The members after the first one, and the closing brace. -/
def renderMembers : List (String × Value) → List Char
  | [] => ['\x7d']
  | (k, v) :: rest => ',' :: (quote k ++ ':' :: (renderChars v ++ renderMembers rest))

end

/-- The text of a value. -/
def render (v : Value) : String := String.ofList (renderChars v)

end ConversionScheduler.Json
