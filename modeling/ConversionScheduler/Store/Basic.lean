import ConversionScheduler.Task.Basic
import ConversionScheduler.Time.Clock
import ConversionScheduler.Worker.Record
/-!
# Stores

The scheduler keeps nothing of value to itself: workers and tasks are in two stores, which may be
anywhere. A store is described by its operations on a *world* `ω`, the state of whatever it lives
in. None of them waits for a worker.

## Main definitions

* `Query` — an operation on the world.
* `WorkerStore`, `TaskStore` — what the two stores can do.
* `Stores` — both, and the clock of their world.
-/

namespace ConversionScheduler

/-- An operation on a world, which it may change even if it fails. -/
def Query (ω α : Type) := ω → Except Failure α × ω

namespace Query

variable {ω ω' α β : Type}

/-- Gives a result and changes nothing. -/
def done (a : α) : Query ω α := fun w => (.ok a, w)

/-- Fails and changes nothing. -/
def stop (f : Failure) : Query ω α := fun w => (.error f, w)

/-- Fails with an error and changes nothing. -/
def fail (e : Error) : Query ω α := stop (.reported e)

/-- One operation after the other. -/
def andThen (q : Query ω α) (f : α → Query ω β) : Query ω β := fun w =>
  match q w with
  | (.ok a, w') => f a w'
  | (.error e, w') => (.error e, w')

/-- Calls follow one another; the first failure ends them all. -/
instance : Monad (Query ω) where
  pure := done
  bind := andThen

/-- An operation on a part of the world. -/
def onPart (get : ω → ω') (set : ω' → ω → ω) (q : Query ω' α) : Query ω α := fun w =>
  let (r, v) := q (get w)
  (r, set v w)

end Query

/-- Puts an id at its place in an ascending list. -/
def insertId (id : String) : List String → List String
  | [] => [id]
  | id' :: rest => if id ≤ id' then id :: id' :: rest else id' :: insertId id rest

/-- Ids in ascending order. -/
def sortIds (ids : List String) : List String := ids.foldr insertId []

/-- The store of the workers. A worker whose record has run out is as good as absent. -/
structure WorkerStore (ω : Type) where
  /-- Writes a record, in place of an earlier one. -/
  add : WorkerRecord → Query ω Unit
  /-- Removes a record, if it is there. -/
  remove : String → Query ω Unit
  get : String → Query ω WorkerRecord
  /-- The ids of the workers that are there, in ascending order. -/
  ids : Query ω (List String)
  /-- Writes a record with a new sign of life, but only if there is one for this id. -/
  heartbeat : WorkerRecord → Query ω WorkerRecord
  close : Query ω Unit

/-- The store of the tasks. -/
structure TaskStore (ω : Type) where
  /-- Writes a task, in place of an earlier one. -/
  add : Task → Query ω Unit
  get : String → Query ω Task
  /-- Writes a task in place of an earlier one, whose time of creation stays. -/
  update : Task → Query ω Unit
  /-- Removes a task, if it is there. -/
  remove : String → Query ω Unit
  close : Query ω Unit

/-- The two stores, and the time in their world. -/
structure Stores (ω : Type) where
  workers : WorkerStore ω
  tasks : TaskStore ω
  now : ω → Timestamp

end ConversionScheduler
