import ConversionScheduler.Settings.Basic
import ConversionScheduler.Toml.Document
/-!
# Where settings come from

## Main definitions

* `Setting.ofDocument?` — the layer of a file.
* `Setting.ofEnvironment` — the layer of the environment.
-/

namespace ConversionScheduler.Setting

/-! ## Files -/

mutual

/-- The setting of a TOML value. Integers have to fit into 64 bits; dates and times are texts. -/
def ofToml? : Toml.Value → Option Setting
  | .string s => some (.text s)
  | .integer n => if Plain.inRange n then some (.integer n) else none
  | .float d => some (.float d)
  | .boolean b => some (.boolean b)
  | .datetime s => some (.text s)
  | .array vs => (ofItems? vs).map .list
  | .table ms => (ofMembers? ms).map .group

/-- The settings of the items of an array. -/
def ofItems? : List Toml.Value → Option (List Setting)
  | [] => some []
  | v :: vs => do return (← ofToml? v) :: (← ofItems? vs)

/-- The settings of the members of a table. -/
def ofMembers? : List (String × Toml.Value) → Option (List (String × Setting))
  | [] => some []
  | (k, v) :: ms => do return (k, ← ofToml? v) :: (← ofMembers? ms)

end

/-- The layer of a TOML document. Dotted keys may add to tables that headers passed through. -/
def ofDocument? (s : String) : Option (List (String × Setting)) :=
  (Toml.ofString? .passages s).bind ofMembers?

/-! ## The environment -/

/-- What the names of variables begin with, in lower case. -/
def marker : String := "docsched__"

/-- The path that is written in the name of a variable, in any case and with two underscores
between its steps. There is none if the variable is of no concern. -/
def variablePath? (name : String) : Option String :=
  let s := lowerCase name
  if s.startsWith marker then some ((s.drop marker.length).toString.replace "__" ".") else none

/-- The setting in the text of a variable: a boolean, a number or else the text itself. -/
def ofVariable (s : String) : Setting :=
  let word := lowerCase s
  if word = "true" then .boolean true
  else if word = "false" then .boolean false
  else
    match Plain.integer? s.toList with
    | some n => .integer n
    | none =>
      match Plain.float? s.toList with
      | some d => .float d
      | none => .text s

/-- The layer of the environment. Of two variables with the same path the later one counts. -/
def ofEnvironment (environment : List (String × String)) : List (String × Setting) :=
  environment.foldl (fun layer v =>
    match variablePath? v.1 with
    | some path => put path (ofVariable v.2) layer
    | none => layer) []

end ConversionScheduler.Setting
