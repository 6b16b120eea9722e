import ConversionScheduler.Decimal.Double
/-!
# TOML values

## Main definitions

* `Toml.Value` — a value of a TOML document.
* `Toml.Table` — keys and values, in the order in which they are written.
-/

namespace ConversionScheduler.Toml

/-- A value. A date or time is kept as its text. -/
inductive Value
  | string (s : String)
  | integer (n : Int)
  | float (d : Double)
  | boolean (b : Bool)
  | datetime (text : String)
  | array (items : List Value)
  | table (members : List (String × Value))
deriving Inhabited

/-- Keys and values. -/
abbrev Table := List (String × Value)

end ConversionScheduler.Toml
