import ConversionScheduler.Toml.Scalar
/-!
# Strings, keys and blanks of TOML

## Main definitions

* `Toml.string?` — a string in one of its four forms.
* `Toml.key?` — a key, which may be dotted.
* `Toml.lineEnd?` — the rest of a line that holds nothing more.
-/

namespace ConversionScheduler.Toml

/-! ## Blanks -/

/-- Whether a character is a blank within a line. -/
def isBlank (c : Char) : Bool := c = ' ' || c = '\t'

/-- Drops the blanks in front. -/
def skipBlanks (cs : List Char) : List Char := cs.dropWhile isBlank

/-- Whether a character may stand in a comment or a literal string. -/
def isPlain (c : Char) : Bool := c = '\t' || (0x20 ≤ c.toNat && c.toNat ≠ 0x7F)

/-- Reads the end of a line. -/
def newline? : List Char → Option (List Char)
  | '\n' :: rest => some rest
  | '\r' :: '\n' :: rest => some rest
  | _ => none

/-- Drops a comment. -/
def skipComment : List Char → List Char
  | '#' :: rest => rest.dropWhile isPlain
  | cs => cs

/-- The rest of a line that holds nothing but blanks and a comment, up to the next line. -/
def lineEnd? (cs : List Char) : Option (List Char) :=
  match skipComment (skipBlanks cs) with
  | [] => some []
  | rest => newline? rest

/-- Drops blanks, comments and ends of lines. `fuel` bounds the number of lines. -/
def skipLines : Nat → List Char → List Char
  | 0, cs => cs
  | fuel + 1, cs =>
    let rest := skipBlanks cs
    match newline? (skipComment rest) with
    | some rest' => skipLines fuel rest'
    | none => if rest.head? = some '#' then skipComment rest else rest

/-! ## Strings -/

/-- The character of a number, if it is one. -/
def charOf? (n : Nat) : Option Char :=
  if n < 0xD800 ∨ (0xE000 ≤ n ∧ n < 0x110000) then some (Char.ofNat n) else none

/-- The character of exactly `width` hexadecimal digits, and what follows them. -/
def hexChar? (width : Nat) (cs : List Char) : Option (Char × List Char) :=
  let ds := cs.take width
  if ds.length = width ∧ ds.all Scalar.isHexDigit then
    (charOf? (ds.foldl (fun n c => n * 16 + Scalar.digitValue c) 0)).map (·, cs.drop width)
  else none

/-- The character of an escape behind its backslash, and what follows it. -/
def escape? : List Char → Option (Char × List Char)
  | 'b' :: rest => some ('\x08', rest)
  | 't' :: rest => some ('\t', rest)
  | 'n' :: rest => some ('\n', rest)
  | 'f' :: rest => some ('\x0c', rest)
  | 'r' :: rest => some ('\r', rest)
  | 'e' :: rest => some ('\x1b', rest)
  | '"' :: rest => some ('"', rest)
  | '\\' :: rest => some ('\\', rest)
  | 'x' :: rest => hexChar? 2 rest
  | 'u' :: rest => hexChar? 4 rest
  | 'U' :: rest => hexChar? 8 rest
  | _ => none

/-- Puts a character in front of a string that was read. -/
def prepend (c : Char) (r : List Char × List Char) : List Char × List Char := (c :: r.1, r.2)

/-- A string in double quotes, from behind the opening one. `fuel` bounds its length. -/
def basic? : Nat → List Char → Option (List Char × List Char)
  | 0, _ => none
  | _, [] => none
  | _, '"' :: rest => some ([], rest)
  | fuel + 1, '\\' :: rest =>
    match escape? rest with
    | some (c, rest') => (basic? fuel rest').map (prepend c)
    | none => none
  | fuel + 1, c :: rest => if isPlain c then (basic? fuel rest).map (prepend c) else none

/-- A string in single quotes, from behind the opening one. -/
def literal? : List Char → Option (List Char × List Char)
  | [] => none
  | '\x27' :: rest => some ([], rest)
  | c :: rest => if isPlain c then (literal? rest).map (prepend c) else none

/-- The end of a string over several lines: three quotes, and up to two more that belong to the
string. -/
def closing? (quote : Char) (cs : List Char) : Option (List Char × List Char) :=
  let quotes := cs.takeWhile (· = quote)
  if 3 ≤ quotes.length then
    let inner := min 2 (quotes.length - 3)
    some (quotes.take inner, cs.drop (inner + 3))
  else none

/-- What follows a backslash at the end of a line: all blanks and ends of lines are dropped. -/
def continued? (cs : List Char) : Option (List Char) :=
  if (newline? (skipBlanks cs)).isSome then
    some (cs.dropWhile fun c => isBlank c || c = '\n' || c = '\r')
  else none

/-- A string over several lines, from behind the opening quotes. Escapes count if `quote` is the
double one. `fuel` bounds its length. -/
def several? (quote : Char) : Nat → List Char → Option (List Char × List Char)
  | 0, _ => none
  | _, [] => none
  | fuel + 1, c :: rest =>
    if c = quote then
      match closing? quote (c :: rest) with
      | some r => some r
      | none => (several? quote fuel rest).map (prepend c)
    else if c = '\\' ∧ quote = '"' then
      match continued? rest with
      | some rest' => several? quote fuel rest'
      | none =>
        match escape? rest with
        | some (c', rest') => (several? quote fuel rest').map (prepend c')
        | none => none
    else if isPlain c ∨ c = '\n' ∨ (c = '\r' ∧ rest.head? = some '\n') then
      (several? quote fuel rest).map (prepend c)
    else none

/-- Drops the end of a line that follows the opening quotes. -/
def dropFirstNewline (cs : List Char) : List Char := (newline? cs).getD cs

/-- A string and what follows it. -/
def string? : List Char → Option (List Char × List Char)
  | '"' :: '"' :: '"' :: rest => several? '"' (rest.length + 1) (dropFirstNewline rest)
  | '\x27' :: '\x27' :: '\x27' :: rest => several? '\x27' (rest.length + 1) (dropFirstNewline rest)
  | '"' :: rest => basic? (rest.length + 1) rest
  | '\x27' :: rest => literal? rest
  | _ => none

/-! ## Keys -/

/-- Whether a character may stand in a key without quotes. -/
def isBareKey (c : Char) : Bool :=
  Decimal.isDigit c || ('a' ≤ c && c ≤ 'z') || ('A' ≤ c && c ≤ 'Z') || c = '-' || c = '_'

/-- One part of a key. -/
def simpleKey? : List Char → Option (String × List Char)
  | '"' :: rest => (basic? (rest.length + 1) rest).map fun r => (String.ofList r.1, r.2)
  | '\x27' :: rest => (literal? rest).map fun r => (String.ofList r.1, r.2)
  | cs =>
    let front := cs.takeWhile isBareKey
    if front.isEmpty then none else some (String.ofList front, cs.dropWhile isBareKey)

/-- The parts of a key, with dots between them, and what follows. `fuel` bounds their number. -/
def keyParts? : Nat → List Char → Option (List String × List Char)
  | 0, _ => none
  | fuel + 1, cs => do
    let (k, rest) ← simpleKey? (skipBlanks cs)
    match skipBlanks rest with
    | '.' :: rest' =>
      let (ks, rest'') ← keyParts? fuel rest'
      return (k :: ks, rest'')
    | rest' => return ([k], rest')

/-- How many parts a key may have. -/
def maxKeyParts : Nat := 80

/-- A key, which may be dotted, and what follows it and the blanks after it. -/
def key? (cs : List Char) : Option (List String × List Char) := keyParts? maxKeyParts cs

end ConversionScheduler.Toml
