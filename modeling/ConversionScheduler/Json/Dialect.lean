import ConversionScheduler.Json.Tree
/-!
# Reading records

Records are read from several notations: JSON text, configuration files, layered settings. What a
record asks of a notation is little: texts, numbers, booleans, choices, lists, and records, which
may be written with names or as the bare list of their values. A `Dialect` says how a notation
gives these; a record type then needs one reading function for all of them.

## Main definitions

* `Dialect` — how a notation gives the pieces of a record.
* `Dialect.fields?` — the fields of a record by their names.
* `Fields.required`, `Fields.defaulted` — one field.
* `Json.Cursor`, `Json.dialect` — the dialect of JSON.
-/

namespace ConversionScheduler

/-- A record as it is written: with names, or as the list of its values. -/
inductive Written (ν : Type)
  | members (ms : List (String × ν))
  | items (vs : List ν)

/-- How a notation with values `ν` gives the pieces of a record. -/
structure Dialect (ν : Type) where
  text? : ν → Option String
  /-- A natural number below a bound. -/
  nat? : Nat → ν → Option Nat
  bool? : ν → Option Bool
  /-- One of several words. -/
  choice? : List String → ν → Option String
  items? : ν → Option (List ν)
  record? : ν → Option (Written ν)
  /-- Whether a list may hold more values than the record has fields. -/
  surplus : Bool

/-- The fields of a record that were written, by name. -/
abbrev Fields (ν : Type) := List (String × ν)

namespace Fields

variable {ν α : Type}

/-- A field that has to be there. -/
def required (fs : Fields ν) (name : String) (read : ν → Option α) : Option α :=
  (fs.lookup name).bind read

/-- A field that may be left out. -/
def defaulted (fs : Fields ν) (name : String) (default : α) (read : ν → Option α) : Option α :=
  match fs.lookup name with
  | none => some default
  | some v => read v

end Fields

namespace Dialect

variable {ν : Type}

/-- The one member with one of the names, if there is one; two are too many. -/
def pick? (ms : List (String × ν)) (names : List String) : Option (Fields ν) :=
  match ms.filter fun m => names.contains m.1 with
  | [] => some []
  | [m] => some [(names.headD "", m.2)]
  | _ => none

/-- The fields of a record, each under the first of its names. Members with other names are
passed over. -/
def fields? (d : Dialect ν) (names : List (List String)) (v : ν) : Option (Fields ν) :=
  match d.record? v with
  | none => none
  | some (.members ms) => (names.mapM (pick? ms)).map List.flatten
  | some (.items vs) =>
    if vs.length ≤ names.length ∨ d.surplus then some ((names.map (·.headD "")).zip vs) else none

/-- A list of records. -/
def list? {α : Type} (d : Dialect ν) (read : ν → Option α) (v : ν) : Option (List α) :=
  (d.items? v).bind fun vs => vs.mapM read

/-- The bound of 64 bit numbers. -/
def bound64 : Nat := 18446744073709551616

/-- The bound of 32 bit numbers. -/
def bound32 : Nat := 4294967296

end Dialect

namespace Json

/-- A tree, and how many arrays and objects may still be entered on the way down. -/
structure Cursor where
  depth : Nat
  tree : Tree

namespace Cursor

/-- The trees of an array. -/
def items? (c : Cursor) : Option (List Cursor) :=
  match c.tree, c.depth with
  | .array ts, depth + 1 => some (ts.map (⟨depth, ·⟩))
  | _, _ => none

/-- The members of an object. -/
def members? (c : Cursor) : Option (List (String × Cursor)) :=
  match c.tree, c.depth with
  | .object ms, depth + 1 => ms.mapM fun m => m.1.map (·, ⟨depth, m.2⟩)
  | _, _ => none

/-- A string. -/
def text? (c : Cursor) : Option String :=
  match c.tree with
  | .string s => s
  | _ => none

/-- A natural number below a bound, written as an integer. -/
def nat? (bound : Nat) (c : Cursor) : Option Nat :=
  match c.tree with
  | .number n =>
    match n.number? with
    | some (.integer (.ofNat m)) => if m < bound then some m else none
    | _ => none
  | _ => none

/-- A boolean. -/
def bool? (c : Cursor) : Option Bool :=
  match c.tree with
  | .bool b => some b
  | _ => none

/-- A word, as a string or as the only key of an object, with null for a value. -/
def choice? (words : List String) (c : Cursor) : Option String :=
  match c.tree, c.depth with
  | .string (some s), _ => if words.contains s then some s else none
  | .object [(some s, .null)], _ + 1 => if words.contains s then some s else none
  | _, _ => none

/-- A record: an object, or an array with the values in order. -/
def record? (c : Cursor) : Option (Written Cursor) :=
  match c.tree with
  | .array _ => c.items?.map .items
  | _ => c.members?.map .members

/-- Free-form data. -/
def value? (c : Cursor) : Option Value := c.tree.value? c.depth

/-- Something that may be null. -/
def nullable? {α : Type} (read : Cursor → Option α) (c : Cursor) : Option (Option α) :=
  match c.tree with
  | .null => some none
  | _ => (read c).map some

end Cursor

/-- How JSON gives the pieces of a record. -/
def dialect : Dialect Cursor where
  text? := Cursor.text?
  nat? := Cursor.nat?
  bool? := Cursor.bool?
  choice? := Cursor.choice?
  items? := Cursor.items?
  record? := Cursor.record?
  surplus := false

/-- Reads a text. -/
def decode? {α : Type} (read : Cursor → Option α) (s : String) : Option α :=
  (Tree.ofString? s).bind fun t => read ⟨maxDepth, t⟩

/-- Reads a sequence of octets. -/
def decodeOctets? {α : Type} (read : Cursor → Option α) (octets : List UInt8) : Option α :=
  (Tree.ofOctets? octets).bind fun t => read ⟨maxDepth, t⟩

end Json

end ConversionScheduler
