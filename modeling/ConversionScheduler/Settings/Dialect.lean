import ConversionScheduler.Json.Dialect
import ConversionScheduler.Settings.Basic
/-!
# Reading records from settings

Nobody declares what a variable of the environment holds, so settings are read generously: texts,
numbers and booleans stand for one another wherever one of them can be taken for the other.

## Main definitions

* `Setting.text?`, `Setting.nat?`, `Setting.bool?` — what a setting can be taken for.
* `Setting.dialect` — how settings give the pieces of a record.
-/

namespace ConversionScheduler.Setting

/-- The text of a setting: for a number or a boolean, the way it is written. -/
def text? : Setting → Option String
  | .text s => some s
  | .integer n => some (String.ofList (Decimal.integer n))
  | .float d => some (String.ofList d.positionalText)
  | .boolean b => some (if b then "true" else "false")
  | _ => none

/-- The words for yes and no. -/
def word? (s : String) : Option Bool :=
  let w := lowerCase s
  if ["true", "on", "yes"].contains w then some true
  else if ["false", "off", "no"].contains w then some false
  else none

/-- The natural number of a setting. Yes counts as one and no as zero. -/
def natural? : Setting → Option Nat
  | .integer (.ofNat n) => some n
  | .float d => some d.roundToNat
  | .boolean b => some b.toNat
  | .text s =>
    match word? s with
    | some b => some b.toNat
    | none => Plain.natural? s.toList
  | _ => none

/-- The natural number of a setting, if it is below a bound. -/
def nat? (bound : Nat) (s : Setting) : Option Nat := s.natural?.filter (· < bound)

/-- The boolean of a setting. Every number but zero counts as true; of texts, only the words for
yes and no and the digits for one and zero do. -/
def bool? : Setting → Option Bool
  | .boolean b => some b
  | .integer n => some (n != 0)
  | .float d => some d.isNonzero
  | .text s => if s = "1" then some true else if s = "0" then some false else word? s
  | _ => none

/-- A word, as a text or as the only key of a group. -/
def choice? (words : List String) : Setting → Option String
  | .text s => if words.contains s then some s else none
  | .group [(k, _)] => if words.contains k then some k else none
  | _ => none

/-- The items of a list. -/
def items? : Setting → Option (List Setting)
  | .list ss => some ss
  | _ => none

/-- A record: a group, or a list with the values in order. -/
def record? : Setting → Option (Written Setting)
  | .group ms => some (.members ms)
  | .list ss => some (.items ss)
  | _ => none

/-- How settings give the pieces of a record. -/
def dialect : Dialect Setting where
  text? := text?
  nat? := nat?
  bool? := bool?
  choice? := choice?
  items? := items?
  record? := record?
  surplus := true

end ConversionScheduler.Setting
