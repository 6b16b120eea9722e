import ConversionScheduler.Text.Blank
import ConversionScheduler.Toml.Text
import ConversionScheduler.Unicode.Property
/-!
# Patterns of values

A directive of a log filter may ask for fields with certain values and give them as a pattern, which
is a regular expression. Only whether a pattern can be read matters: an event outside of spans is
not asked for its values.

There are no tables behind a pattern. So it cannot name classes of letters and digits or the ends
of words, nor let the case of letters go, unless `(?-u)` restricts it to ASCII.

## Main definitions

* `Pattern.Mode` — how the characters of a pattern are meant.
* `Pattern.escape?`, `Pattern.class?`, `Pattern.group?` — the elements of a pattern.
* `Pattern.isReadable` — whether a text is a pattern.
-/

namespace ConversionScheduler.Pattern

/-- How the characters of a pattern are meant. -/
structure Mode where
  /-- Whether a letter stands for both of its cases. -/
  anyCase : Bool := false
  /-- Whether all characters may occur, and not only those of ASCII. -/
  allScripts : Bool := true
  /-- Whether blanks and comments are passed over. -/
  spaced : Bool := false
deriving DecidableEq

namespace Mode

/-- Whether a character may stand for itself. -/
def allows (m : Mode) (c : Char) : Bool := if m.allScripts then !m.anyCase else c.toNat < 0x80

/-- Switches what a letter stands for on or off. -/
def switch (m : Mode) (on : Bool) (c : Char) : Mode :=
  if c = 'i' then { m with anyCase := on }
  else if c = 'u' then { m with allScripts := on }
  else if c = 'x' then { m with spaced := on }
  else m

/-- Drops blanks and comments. `fuel` bounds the number of comments. -/
def skipAll : Nat → List Char → List Char
  | 0, cs => cs
  | fuel + 1, cs =>
    match cs.dropWhile isBlank with
    | '#' :: rest => skipAll fuel (rest.dropWhile (· ≠ '\n'))
    | rest => rest

/-- Drops what is passed over. -/
def skip (m : Mode) (cs : List Char) : List Char :=
  if m.spaced then skipAll (cs.length + 1) cs else cs

end Mode

/-! ## Escapes -/

/-- What an escape stands for: a character, a set of them, or a place between them. -/
inductive Escape
  | char (c : Char)
  | set
  | place
deriving DecidableEq

/-- The control characters that have letters. -/
def controls : List (Char × Char) :=
  [('a', '\x07'), ('f', '\x0c'), ('t', '\t'), ('n', '\n'), ('r', '\r'), ('v', '\x0b')]

/-- The number of hexadecimal digits behind a letter. -/
def hexWidths : List (Char × Nat) := [('x', 2), ('u', 4), ('U', 8)]

/-- An escape behind its backslash, and what follows it. -/
def escape? (m : Mode) : List Char → Option (Escape × List Char)
  | [] => none
  | c :: rest =>
    if ['d', 's', 'w'].contains c then if m.allScripts then none else some (.set, rest)
    else if ['b', 'B', '<', '>'].contains c then if m.allScripts then none else some (.place, rest)
    else if c = 'A' ∨ c = 'z' then some (.place, rest)
    else
      match controls.lookup c, hexWidths.lookup c with
      | some c', _ => some (.char c', rest)
      | _, some width => (Toml.hexChar? width rest).map fun r => (.char r.1, r.2)
      | none, none => if c.toNat < 0x80 && !c.isAlphanum then some (.char c, rest) else none

/-! ## Classes -/

/-- The names of classes of ASCII characters. -/
def classNames : List String :=
  ["alnum", "alpha", "ascii", "blank", "cntrl", "digit", "graph", "lower", "print", "punct",
    "space", "upper", "word", "xdigit"]

/-- Reads a name of a class between colons, behind the opening bracket. -/
def named? : List Char → Option (List Char)
  | ':' :: rest =>
    let rest := if rest.head? = some '^' then rest.drop 1 else rest
    match rest.dropWhile (· ≠ ':') with
    | ':' :: ']' :: rest' =>
      if classNames.contains (String.ofList (rest.takeWhile (· ≠ ':'))) then some rest' else none
    | _ => none
  | _ => none

/-- Reads the beginning of a class behind the opening bracket: a circumflex, and hyphens or a
bracket that stand for themselves. -/
def classStart? (m : Mode) (cs : List Char) : Option (List Char) :=
  let members (cs : List Char) : List Char :=
    match m.skip cs with
    | ']' :: rest => rest
    | rest => rest.dropWhile (· = '-')
  match m.skip cs with
  | '^' :: rest => if m.allScripts then some (members rest) else none
  | rest => some (members rest)

/-- A member of a class: a character, or an escape that stands for several. -/
def member? (m : Mode) : List Char → Option (Option Char × List Char)
  | [] => none
  | '\\' :: rest =>
    match escape? m rest with
    | some (.char c, rest') => if m.allows c then some (some c, rest') else none
    | some (.set, rest') => some (none, rest')
    | _ => none
  | c :: rest => if m.allows c then some (some c, rest) else none

/-- Reads a member of a class, or a range of them. -/
def range? (m : Mode) (cs : List Char) : Option (List Char) :=
  match member? m cs with
  | none => none
  | some (first, rest) =>
    match m.skip rest with
    | '-' :: rest' =>
      match m.skip rest' with
      | ']' :: _ => some rest
      | '-' :: _ => some rest
      | rest'' =>
        match first, member? m rest'' with
        | some a, some (some b, rest''') => if a ≤ b then some rest''' else none
        | _, _ => none
    | _ => some rest

/-- Reads the members of a class, up to behind the closing bracket. Classes may be nested. `fuel`
bounds the length. -/
def members? (m : Mode) : Nat → List Char → Option (List Char)
  | 0, _ => none
  | fuel + 1, cs =>
    match m.skip cs with
    | [] => none
    | ']' :: rest => some rest
    | '&' :: '&' :: rest => members? m fuel rest
    | '-' :: '-' :: rest => members? m fuel rest
    | '~' :: '~' :: rest => members? m fuel rest
    | '[' :: rest =>
      match named? rest with
      | some rest' => members? m fuel rest'
      | none =>
        match classStart? m rest with
        | none => none
        | some rest' =>
          match members? m fuel rest' with
          | none => none
          | some rest'' => members? m fuel rest''
    | rest =>
      match range? m rest with
      | none => none
      | some rest' => members? m fuel rest'

/-- Reads a class behind its opening bracket. -/
def class? (m : Mode) (cs : List Char) : Option (List Char) :=
  if m.allScripts && m.anyCase then none
  else (classStart? m cs).bind (members? m (cs.length + 1))

/-! ## Groups -/

/-- How far a pattern has been read. -/
structure State where
  mode : Mode := {}
  /-- The modes around the open groups, the innermost first. -/
  outer : List Mode := []
  names : List (List Char) := []
  /-- Whether something stands in front that can be repeated. -/
  repeatable : Bool := false
deriving DecidableEq

/-- Opens a group. -/
def State.enter (s : State) (m : Mode) : State :=
  { s with mode := m, outer := s.mode :: s.outer, repeatable := false }

/-- Reads switches up to a colon, behind which a group begins, or up to the end of the group. -/
def switches? (m : Mode) (on : Bool) (seen : List Char) :
    List Char → Option (Mode × Bool × List Char)
  | [] => none
  | c :: rest =>
    if c = ':' then if seen.head? = some '-' then none else some (m, true, rest)
    else if c = ')' then
      if seen.isEmpty || seen.head? = some '-' then none else some (m, false, rest)
    else if seen.contains c then none
    else if ['i', 'm', 's', 'U', 'u', 'R', 'x', '-'].contains c then
      switches? (m.switch on c) (on && c ≠ '-') (c :: seen) rest
    else none

/-- Whether a text is a name for a group. -/
def isName (cs : List Char) : Bool :=
  match cs with
  | [] => false
  | c :: rest =>
    (c = '_' || (Unicode.isAlphanumeric c && Unicode.Category.of c ≠ .digit &&
      Unicode.Category.of c ≠ .otherNumber)) &&
    rest.all fun c => ['_', '.', '[', ']'].contains c || Unicode.isAlphanumeric c

/-- Reads the name of a group. -/
def name? (s : State) (cs : List Char) : Option (State × List Char) :=
  let name := cs.takeWhile (· ≠ '>')
  match cs.dropWhile (· ≠ '>') with
  | [] => none
  | _ :: rest =>
    if isName name && !s.names.contains name then
      some ({ s.enter s.mode with names := name :: s.names }, rest)
    else none

/-- Reads the beginning of a group behind its parenthesis. -/
def group? (s : State) : List Char → Option (State × List Char)
  | '?' :: 'P' :: '<' :: rest => name? s rest
  | '?' :: '<' :: rest => name? s rest
  | '?' :: rest =>
    match switches? s.mode true [] rest with
    | none => none
    | some (m, true, rest') => some (s.enter m, rest')
    | some (m, false, rest') => some ({ s with mode := m, repeatable := false }, rest')
  | rest => some (s.enter s.mode, rest)

/-! ## Patterns -/

/-- Reads what begins with a character. -/
def element? (s : State) (c : Char) (rest : List Char) : Option (State × List Char) :=
  let item (rest : List Char) : State × List Char := ({ s with repeatable := true }, rest)
  if c = '(' then group? s (s.mode.skip rest)
  else if c = ')' then
    match s.outer with
    | [] => none
    | m :: outer => some ({ s with mode := m, outer := outer, repeatable := true }, rest)
  else if c = '|' then some ({ s with repeatable := false }, rest)
  else if ['*', '+', '?'].contains c then
    if s.repeatable then some (s, if rest.head? = some '?' then rest.drop 1 else rest) else none
  else if c = '\x7b' then none
  else if c = '[' then (class? s.mode rest).map item
  else if c = '\\' then
    match escape? s.mode rest with
    | none => none
    | some (.char c', rest') => if s.mode.allows c' then some (item rest') else none
    | some (_, rest') => some (item rest')
  else if c = '.' then if s.mode.allScripts then some (item rest) else none
  else if c = '^' ∨ c = '$' ∨ s.mode.allows c then some (item rest)
  else none

/-- Whether a pattern can be read to its end. `fuel` bounds its length. -/
def reads : Nat → State → List Char → Bool
  | 0, _, _ => false
  | fuel + 1, s, cs =>
    match s.mode.skip cs with
    | [] => s.outer.isEmpty
    | c :: rest =>
      match element? s c rest with
      | none => false
      | some (s', rest') => reads fuel s' rest'

/-- Whether a text is a pattern. A brace that opens a count must be closed, for which the parts of
a directive leave no room; so there are no counts. -/
def isReadable (cs : List Char) : Bool := reads (cs.length + 1) {} cs

end ConversionScheduler.Pattern
