import ConversionScheduler.Toml.Text
/-!
# TOML documents

A document is a sequence of lines: keys with values, and headers that say to which table the
following keys belong. How a table came about decides what may still be added to it; readers differ
in whether dotted keys may add to a table that no header of its own begins.

## Main definitions

* `Toml.Node`, `Toml.Entries` — a document under construction.
* `Toml.DottedReach` — to which tables a dotted key may add.
* `Toml.Entries.assign?`, `Toml.Entries.open?`, `Toml.Entries.append?` — what lines do to it.
* `Toml.value?` — a value in a text.
* `Toml.ofString?` — the table of a whole text.
-/

namespace ConversionScheduler.Toml

/-- How a table came about: by a header of its own, on the way to another table, or by a dotted
key. -/
inductive TableOrigin
  | header
  | passage
  | dotted
deriving DecidableEq

/-- To which tables a dotted key may add: to those made by dotted keys, or also to those that
headers passed through on the way to others. -/
inductive DottedReach
  | dotted
  | passages
deriving DecidableEq

/-- Whether a dotted key may add to a table itself, and not only to tables within it. -/
def DottedReach.covers (reach : DottedReach) (origin : TableOrigin) : Bool :=
  origin = .dotted || (reach = .passages && origin = .passage)

/-- A part of a document under construction. -/
inductive Node
  | value (v : Value)
  | table (origin : TableOrigin) (entries : List (String × Node))
  /-- Tables that are listed by headers in double brackets. The last one comes first. -/
  | tables (items : List (List (String × Node)))
deriving Inhabited

/-- The entries of a table under construction. -/
abbrev Entries := List (String × Node)

mutual

/-- The value of a finished part. -/
def Node.toValue : Node → Value
  | .value v => v
  | .table _ es => .table (toTable es)
  | .tables items => .array (toTables items).reverse

/-- The values of finished entries. -/
def toTable : List (String × Node) → List (String × Value)
  | [] => []
  | (k, n) :: rest => (k, n.toValue) :: toTable rest

/-- The values of listed tables. -/
def toTables : List (List (String × Node)) → List Value
  | [] => []
  | es :: rest => .table (toTable es) :: toTables rest

end

namespace Entries

/-- Puts a node in place of the one under a key. -/
def replace (es : Entries) (k : String) (n : Node) : Entries :=
  es.map fun e => if e.1 = k then (k, n) else e

/-- Changes the table at the end of a header's path, which is made where it is missing. -/
def pass? (f : Entries → Option Entries) : List String → Entries → Option Entries
  | [], es => f es
  | k :: ks, es =>
    match es.lookup k with
    | none => (pass? f ks []).map fun sub => es ++ [(k, .table .passage sub)]
    | some (.table o sub) => (pass? f ks sub).map fun sub' => es.replace k (.table o sub')
    | some (.tables (sub :: earlier)) =>
      (pass? f ks sub).map fun sub' => es.replace k (.tables (sub' :: earlier))
    | some _ => none

/-- Changes the table at the end of a dotted key, which is made where it is missing. The key passes
through no table that has a header, and ends in one within its reach. -/
def enter? (reach : DottedReach) (f : Entries → Option Entries) :
    List String → Entries → Option Entries
  | [], es => f es
  | k :: ks, es =>
    match es.lookup k with
    | none => (enter? reach f ks []).map fun sub => es ++ [(k, .table .dotted sub)]
    | some (.table o sub) =>
      if o = .header ∨ (ks = [] ∧ !reach.covers o) then none
      else (enter? reach f ks sub).map fun sub' => es.replace k (.table o sub')
    | some (.tables (sub :: earlier)) =>
      if ks = [] then none
      else (enter? reach f ks sub).map fun sub' => es.replace k (.tables (sub' :: earlier))
    | some _ => none

/-- Adds an entry, whose key must be new. -/
def add? (k : String) (n : Node) (es : Entries) : Option Entries :=
  if (es.lookup k).isSome then none else some (es ++ [(k, n)])

/-- Gives a key of a table a value. -/
def assign? (es : Entries) (reach : DottedReach) (key : List String) (v : Value) :
    Option Entries :=
  match key.getLast? with
  | none => none
  | some k => enter? reach (add? k (.value v)) key.dropLast es

/-- Begins a table at the end of a table's path. One that was only passed through so far may be
begun. -/
def begin? (k : String) (es : Entries) : Option Entries :=
  match es.lookup k with
  | none => some (es ++ [(k, .table .header [])])
  | some (.table .passage sub) => some (es.replace k (.table .header sub))
  | some _ => none

/-- Begins a further table of a list. -/
def beginNext? (k : String) (es : Entries) : Option Entries :=
  match es.lookup k with
  | none => some (es ++ [(k, .tables [[]])])
  | some (.tables items) => some (es.replace k (.tables ([] :: items)))
  | some _ => none

/-- Does a header's work: `f` begins the table at the end of the path. -/
def open? (es : Entries) (path : List String)
    (f : String → Entries → Option Entries) : Option Entries :=
  match path.getLast? with
  | none => none
  | some k => pass? (f k) path.dropLast es

/-- Changes the table that a path leads to, once it has been begun. -/
def within? (f : Entries → Option Entries) : List String → Entries → Option Entries
  | [], es => f es
  | k :: ks, es =>
    match es.lookup k with
    | some (.table o sub) => (within? f ks sub).map fun sub' => es.replace k (.table o sub')
    | some (.tables (sub :: earlier)) =>
      (within? f ks sub).map fun sub' => es.replace k (.tables (sub' :: earlier))
    | _ => none

end Entries

/-! ## Values -/

/-- How deep arrays and tables may be nested within a value. -/
def maxDepth : Nat := 80

mutual

/-- A value and what follows it. `depth` is how much deeper it may be nested. -/
def valueAt? : Nat → Nat → List Char → Option (Value × List Char)
  | 0, _, _ => none
  | fuel + 1, depth, cs =>
    match cs, depth with
    | '[' :: rest, depth + 1 =>
      (itemsAt? fuel depth (skipLines fuel rest)).map fun r => (.array r.1, r.2)
    | '[' :: _, 0 => none
    | '\x7b' :: rest, depth + 1 =>
      (membersAt? fuel depth [] (skipLines fuel rest)).map fun r => (.table (toTable r.1), r.2)
    | '\x7b' :: _, 0 => none
    | '"' :: _, _ => (string? cs).map fun r => (.string (String.ofList r.1), r.2)
    | '\x27' :: _, _ => (string? cs).map fun r => (.string (String.ofList r.1), r.2)
    | _, _ =>
      let (token, rest) := Scalar.takeToken cs
      (Scalar.ofToken? token).map (·, rest)

/-- The items of an array, up to behind its bracket. A comma may follow the last one. -/
def itemsAt? : Nat → Nat → List Char → Option (List Value × List Char)
  | 0, _, _ => none
  | fuel + 1, depth, cs =>
    match cs with
    | ']' :: rest => some ([], rest)
    | _ =>
      match valueAt? fuel depth cs with
      | none => none
      | some (v, rest) =>
        match skipLines fuel rest with
        | ',' :: rest' =>
          (itemsAt? fuel depth (skipLines fuel rest')).map fun r => (v :: r.1, r.2)
        | ']' :: rest' => some ([v], rest')
        | _ => none

/-- The members of an inline table, up to behind its brace, added to those before them. Lines may
end wherever blanks may stand, but not within a key. -/
def membersAt? : Nat → Nat → Entries → List Char → Option (Entries × List Char)
  | 0, _, _, _ => none
  | fuel + 1, depth, es, cs =>
    match cs with
    | '\x7d' :: rest => some (es, rest)
    | _ =>
      match key? cs with
      | none => none
      | some (key, rest) =>
        match skipLines fuel rest with
        | '=' :: rest =>
          match valueAt? fuel depth (skipLines fuel rest) with
          | none => none
          | some (v, rest) =>
            match es.assign? .dotted key v, skipLines fuel rest with
            | some es', ',' :: rest' => membersAt? fuel depth es' (skipLines fuel rest')
            | some es', '\x7d' :: rest' => some (es', rest')
            | _, _ => none
        | _ => none

end

/-- A value and what follows it. -/
def value? (cs : List Char) : Option (Value × List Char) :=
  valueAt? (2 * cs.length + 1) maxDepth cs

/-! ## Lines -/

/-- Reads a header behind its first bracket: the path, and whether it is in double brackets. -/
def header? (cs : List Char) : Option ((List String × Bool) × List Char) :=
  match cs with
  | '[' :: rest =>
    match key? rest with
    | some (path, ']' :: ']' :: rest') => some ((path, true), rest')
    | _ => none
  | _ =>
    match key? cs with
    | some (path, ']' :: rest') => some ((path, false), rest')
    | _ => none

/-- Reads the lines of a document. `path` leads to the table that the keys belong to, and `fuel`
bounds the number of lines. -/
def lines? (reach : DottedReach) : Nat → List String → Entries → List Char → Option Entries
  | 0, _, _, _ => none
  | fuel + 1, path, es, cs =>
    match skipBlanks cs with
    | [] => some es
    | '[' :: rest =>
      match header? rest with
      | none => none
      | some ((path', double), rest') =>
        let opened := es.open? path' (if double then Entries.beginNext? else Entries.begin?)
        match opened, lineEnd? rest' with
        | some es', some rest'' => lines? reach fuel path' es' rest''
        | _, _ => none
    | rest =>
      match lineEnd? rest with
      | some rest' => lines? reach fuel path es rest'
      | none =>
        match key? rest with
        | some (key, '=' :: rest') =>
          match value? (skipBlanks rest') with
          | none => none
          | some (v, rest'') =>
            match Entries.within? (fun t => t.assign? reach key v) path es, lineEnd? rest'' with
            | some es', some rest''' => lines? reach fuel path es' rest'''
            | _, _ => none
        | _ => none

/-- The table of a document. A byte order mark in front does not count. -/
def ofString? (reach : DottedReach) (s : String) : Option Table :=
  let cs := match s.toList with
    | '\uFEFF' :: rest => rest
    | cs => cs
  (lines? reach (cs.length + 1) [] [] cs).map toTable

end ConversionScheduler.Toml
