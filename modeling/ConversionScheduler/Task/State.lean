import ConversionScheduler.Json.Dialect
/-!
# States and priorities of tasks

## Main definitions

* `TaskState`, `TaskState.isTerminal` — where a task stands, and whether it has ended.
* `Priority`, `Priority.rank` — how urgent a task is.
-/

namespace ConversionScheduler

/-- Where a task stands. -/
inductive TaskState
  | pending
  | running
  | done
  | failure
  | cancelled
deriving DecidableEq, Inhabited

namespace TaskState

/-- The word for a state. -/
def word : TaskState → String
  | .pending => "PENDING"
  | .running => "RUNNING"
  | .done => "DONE"
  | .failure => "FAILURE"
  | .cancelled => "CANCELLED"

/-- The states there are. -/
def all : List TaskState := [.pending, .running, .done, .failure, .cancelled]

/-- Whether a task in this state has ended. -/
def isTerminal : TaskState → Bool
  | .done | .failure | .cancelled => true
  | .pending | .running => false

/-- The state of a word. -/
def ofWord? (w : String) : Option TaskState := all.find? fun s => s.word = w

/-- Reads a state. -/
def read? {ν : Type} (d : Dialect ν) (v : ν) : Option TaskState :=
  (d.choice? (all.map word) v).bind ofWord?

/-- Every state is read back from its word. -/
theorem ofWord?_word (s : TaskState) : ofWord? s.word = some s := by cases s <;> decide

end TaskState

/-- How urgent a task is. -/
inductive Priority
  | low
  | medium
  | high
deriving DecidableEq, Inhabited

namespace Priority

/-- The word for a priority. -/
def word : Priority → String
  | .low => "LOW"
  | .medium => "MEDIUM"
  | .high => "HIGH"

/-- The priorities there are. -/
def all : List Priority := [.low, .medium, .high]

/-- The place of a priority in their order. -/
def rank : Priority → Nat
  | .low => 0
  | .medium => 1
  | .high => 2

/-- Priorities are compared by rank. -/
instance : Ord Priority := ⟨fun a b => compare a.rank b.rank⟩

/-- The priority of a word. -/
def ofWord? (w : String) : Option Priority := all.find? fun p => p.word = w

/-- Reads a priority. -/
def read? {ν : Type} (d : Dialect ν) (v : ν) : Option Priority :=
  (d.choice? (all.map word) v).bind ofWord?

/-- Every priority is read back from its word. -/
theorem ofWord?_word (p : Priority) : ofWord? p.word = some p := by cases p <;> decide

end Priority

end ConversionScheduler
