import ConversionScheduler.Decimal.Double
/-!
# JSON values

Free-form data: what a client attaches to a task, and what a worker answers.

## Main definitions

* `Json.Number`, `Json.Value` — numbers and values. The members of an object are listed in the
  order in which they are written.
* `Json.Value.insertMember` — objects with free-form keys keep them in ascending order, one value
  for each.
-/

namespace ConversionScheduler.Json

/-- A number: an integer of 64 bits, signed or not, or a double. -/
inductive Number
  | integer (n : Int)
  | double (d : Double)
deriving DecidableEq

/-- A JSON value. -/
inductive Value
  | null
  | bool (b : Bool)
  | number (n : Number)
  | string (s : String)
  | array (items : List Value)
  | object (members : List (String × Value))
deriving Inhabited

namespace Value

/-- The value of a natural number. -/
def nat (n : Nat) : Value := .number (.integer n)

/-- The value of a text that may be missing. -/
def optional : Option String → Value
  | none => .null
  | some s => .string s

/-- Puts a member at its place in the ascending order of keys. A later value of a key replaces
the earlier one. -/
def insertMember (k : String) (v : Value) : List (String × Value) → List (String × Value)
  | [] => [(k, v)]
  | (k', v') :: rest =>
    if k < k' then (k, v) :: (k', v') :: rest
    else if k = k' then (k, v) :: rest
    else (k', v') :: insertMember k v rest

/-- An object with free-form keys. -/
def ofMembers (ms : List (String × Value)) : Value :=
  .object (ms.foldl (fun acc m => insertMember m.1 m.2 acc) [])

/-- The first member of an object with a given key. -/
def member? (v : Value) (k : String) : Option Value :=
  match v with
  | .object ms => (ms.find? fun m => m.1 = k).map (·.2)
  | _ => none

mutual

/-- Whether two values are the same. -/
def same : Value → Value → Bool
  | .null, .null => true
  | .bool a, .bool b => a = b
  | .number a, .number b => a = b
  | .string a, .string b => a = b
  | .array a, .array b => sameItems a b
  | .object a, .object b => sameMembers a b
  | _, _ => false

/-- Whether two lists hold the same values. -/
def sameItems : List Value → List Value → Bool
  | [], [] => true
  | a :: as, b :: bs => same a b && sameItems as bs
  | _, _ => false

/-- Whether two lists hold the same members. -/
def sameMembers : List (String × Value) → List (String × Value) → Bool
  | [], [] => true
  | (k, a) :: as, (l, b) :: bs => k = l && (same a b && sameMembers as bs)
  | _, _ => false

end

mutual

/-- The comparison of two values finds out whether they are equal. -/
theorem same_iff (a b : Value) : same a b = true ↔ a = b := by
  cases a <;> cases b <;> simp [same]
  case array.array x y => exact sameItems_iff x y
  case object.object x y => exact sameMembers_iff x y

/-- The comparison of two lists of values finds out whether they are equal. -/
theorem sameItems_iff (a b : List Value) : sameItems a b = true ↔ a = b := by
  cases a <;> cases b <;> simp [sameItems]
  case cons.cons x xs y ys => exact and_congr (same_iff x y) (sameItems_iff xs ys)

/-- The comparison of the members of two objects finds out whether they are equal. -/
theorem sameMembers_iff (a b : List (String × Value)) : sameMembers a b = true ↔ a = b := by
  cases a <;> cases b <;> simp [sameMembers]
  case cons.cons x xs y ys =>
    obtain ⟨k, v⟩ := x
    obtain ⟨l, w⟩ := y
    simp [same_iff v w, sameMembers_iff xs ys, and_assoc]

end

/-- Values can be compared, since their comparison finds out whether they are equal. -/
instance : DecidableEq Value := fun a b => decidable_of_iff _ (same_iff a b)

end Value

end ConversionScheduler.Json
