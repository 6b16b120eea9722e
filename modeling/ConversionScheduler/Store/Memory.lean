import ConversionScheduler.Store.Basic
import ConversionScheduler.Table
/-!
# Stores in memory

Nothing runs out by itself in memory: each worker's record has a deadline, and one whose deadline
has come is passed over.

## Main definitions

* `MemoryWorkers` — the workers, with the operations `add`, `remove`, `get`, `ids`, `heartbeat`.
* `MemoryTasks` — the tasks, with the operations `add`, `get`, `update`, `remove`.
-/

namespace ConversionScheduler

/-- A worker's record and when it runs out. -/
structure WorkerEntry where
  record : WorkerRecord
  deadline : Duration
deriving DecidableEq

/-- Whether a record is still there. -/
def WorkerEntry.isLive (e : WorkerEntry) (now : Clock) : Bool := now.uptime.nanos < e.deadline.nanos

/-- The workers in memory. -/
abbrev MemoryWorkers := Table String WorkerEntry

namespace MemoryWorkers

/-- The record of a worker, if it is still there. -/
def live? (now : Clock) (ws : MemoryWorkers) (id : String) : Option WorkerRecord :=
  ((ws.get? id).filter (·.isLive now)).map (·.record)

/-- Writes a record that runs out after `ttl`. -/
def add (ttl : Duration) (now : Clock) (r : WorkerRecord) : Query MemoryWorkers Unit := fun ws =>
  match now.deadline? ttl with
  | none => (.error .crashed, ws)
  | some deadline => (.ok (), ws.insert r.id ⟨r, deadline⟩)

/-- Removes a record. -/
def remove (id : String) : Query MemoryWorkers Unit := fun ws => (.ok (), ws.erase id)

/-- Reads a record. -/
def get (now : Clock) (id : String) : Query MemoryWorkers WorkerRecord := fun ws =>
  match ws.live? now id with
  | some r => (.ok r, ws)
  | none => (.error (.reported (.workerNotFound id)), ws)

/-- The ids in ascending order. Records that have run out are dropped. -/
def ids (now : Clock) : Query MemoryWorkers (List String) := fun ws =>
  let ws' := ws.filter fun _ e => e.isLive now
  (.ok (sortIds ws'.keys), ws')

/-- Renews a record that is still there. -/
def heartbeat (ttl : Duration) (now : Clock) (r : WorkerRecord) :
    Query MemoryWorkers WorkerRecord := fun ws =>
  match (ws.get? r.id).filter (·.isLive now) with
  | none => (.error (.reported (.workerNotFound r.id)), ws)
  | some e =>
    let r' := r.touch now.wall
    match now.deadline? ttl with
    | none => (.error .crashed, ws.insert r.id ⟨r', e.deadline⟩)
    | some deadline => (.ok r', ws.insert r.id ⟨r', deadline⟩)

/-- Drops all records. -/
def close : Query MemoryWorkers Unit := fun _ => (.ok (), .empty)

end MemoryWorkers

/-- The tasks in memory. -/
abbrev MemoryTasks := Table String TaskRecord

namespace MemoryTasks

/-- Writes a task. -/
def add (now : Timestamp) (t : Task) : Query MemoryTasks Unit := fun ts =>
  (.ok (), ts.insert t.id (t.toRecord now))

/-- Reads a task. -/
def get (id : String) : Query MemoryTasks Task := fun ts =>
  match ts.get? id with
  | some r => (.ok (Task.ofRecord r), ts)
  | none => (.error (.reported (.taskNotFound id)), ts)

/-- Writes a task in place of an earlier one. -/
def update (now : Timestamp) (t : Task) : Query MemoryTasks Unit := fun ts =>
  match ts.get? t.id with
  | some r => (.ok (), ts.insert t.id { t.toRecord now with createdAt := r.createdAt })
  | none => (.error (.reported (.taskNotFound t.id)), ts)

/-- Removes a task. -/
def remove (id : String) : Query MemoryTasks Unit := fun ts => (.ok (), ts.erase id)

end MemoryTasks

end ConversionScheduler
