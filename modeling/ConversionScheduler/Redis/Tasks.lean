import ConversionScheduler.Json.Printer
import ConversionScheduler.Redis.Dialogue
/-!
# Tasks in Redis

All records are in one hash, under the ids of the tasks. They do not run out.

## Main definitions

* `RedisTasks` — the connection.
* `RedisTasks.add`, `RedisTasks.get`, `RedisTasks.update`, `RedisTasks.remove` — the operations.
-/

namespace ConversionScheduler

open Redis (Dialogue Command Reply Connection)

/-- Tasks in Redis. -/
structure RedisTasks where
  connection : Connection
deriving DecidableEq

namespace RedisTasks

/-- The key of the hash. -/
def hashKey (t : RedisTasks) : String := t.connection.key "task"

/-- The record of a text that was found under an id. A record without an id gets that one. -/
def record? (id s : String) : Except Error TaskRecord :=
  match Json.decode? TaskRecord.read? s with
  | some r => .ok (if r.id = "" then { r with id := id } else r)
  | none => .error .undecodable

/-- Reads a record. -/
def load (t : RedisTasks) (id : String) : Dialogue (Option TaskRecord) := do
  match ← t.connection.ask (.hget t.hashKey id) Reply.optionalText? with
  | none => return none
  | some s => .done ((record? id s).map some)

/-- Writes a record. -/
def save (t : RedisTasks) (r : TaskRecord) : Dialogue Unit := do
  let _ ← t.connection.ask (.hset t.hashKey [(r.id, Json.render r.toJson)]) Reply.integer?

/-- Writes a task. -/
def add (t : RedisTasks) (now : Timestamp) (task : Task) : Dialogue Unit :=
  t.save (task.toRecord now)

/-- Reads a task. -/
def get (t : RedisTasks) (id : String) : Dialogue Task := do
  match ← t.load id with
  | some r => return Task.ofRecord r
  | none => .done (.error (.taskNotFound id))

/-- Writes a task in place of an earlier one. -/
def update (t : RedisTasks) (now : Timestamp) (task : Task) : Dialogue Unit := do
  match ← t.load task.id with
  | some r => t.save { task.toRecord now with createdAt := r.createdAt }
  | none => .done (.error (.taskNotFound task.id))

/-- Removes a task. -/
def remove (t : RedisTasks) (id : String) : Dialogue Unit := do
  let _ ← t.connection.ask (.hdel t.hashKey [id]) Reply.integer?

end RedisTasks

end ConversionScheduler
