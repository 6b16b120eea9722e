import ConversionScheduler.Json.Dialect
import ConversionScheduler.Toml.Document
/-!
# Reading records from TOML

## Main definitions

* `Toml.Value.dialect` — how TOML gives the pieces of a record.
* `Toml.decode?` — a record that is written as a whole document.
-/

namespace ConversionScheduler.Toml

namespace Value

/-- A string. -/
def text? : Value → Option String
  | .string s => some s
  | _ => none

/-- An integer that is not negative and below a bound. -/
def nat? (bound : Nat) : Value → Option Nat
  | .integer (.ofNat n) => if n < bound then some n else none
  | _ => none

/-- A boolean. -/
def bool? : Value → Option Bool
  | .boolean b => some b
  | _ => none

/-- Whether a value is an array or table that holds nothing. -/
def isEmpty : Value → Bool
  | .array [] => true
  | .table [] => true
  | _ => false

/-- A word, as a string or as the only key of a table, with nothing below it. -/
def choice? (words : List String) : Value → Option String
  | .string s => if words.contains s then some s else none
  | .table [(k, v)] => if words.contains k && v.isEmpty then some k else none
  | _ => none

/-- The items of an array. -/
def items? : Value → Option (List Value)
  | .array vs => some vs
  | _ => none

/-- A record: a table, or an array with the values in order. A date or time is a record that has
none of the fields one may ask for. -/
def record? : Value → Option (Written Value)
  | .table ms => some (.members ms)
  | .array vs => some (.items vs)
  | .datetime _ => some (.members [])
  | _ => none

/-- How TOML gives the pieces of a record. -/
def dialect : Dialect Value where
  text? := text?
  nat? := nat?
  bool? := bool?
  choice? := choice?
  items? := items?
  record? := record?
  surplus := true

end Value

/-- Reads a document. Dotted keys add to no tables but those made by dotted keys. -/
def decode? {α : Type} (read : Value → Option α) (s : String) : Option α :=
  (ofString? .dotted s).bind fun t => read (.table t)

end ConversionScheduler.Toml
