import ConversionScheduler.Json.Dialect
import ConversionScheduler.Time.Rfc3339
/-!
# Workers

A worker registers with an id, an address and a weight. The registry keeps it with the time of its
last sign of life.

## Main definitions

* `Registration` — what a worker registers with.
* `WorkerRecord`, `WorkerRecord.ofRegistration`, `WorkerRecord.touch` — what the registry keeps.
* `WorkerRecord.isStale` — whether the last sign of life is too long ago.
* `WorkerStatus` — what a worker says about itself.
* `WorkerSummary` — what is known about a worker.
-/

namespace ConversionScheduler

/-- What a worker registers with. -/
structure Registration where
  id : String
  addr : String
  weight : Nat := 1
deriving DecidableEq, Inhabited

namespace Registration

/-- The JSON object of a registration. -/
def toJson (r : Registration) : Json.Value :=
  .object [("id", .string r.id), ("addr", .string r.addr), ("weight", .nat r.weight)]

/-- Reads a registration. The weight is 1 unless it is given. -/
def read? {ν : Type} (d : Dialect ν) (v : ν) : Option Registration := do
  let fs ← d.fields? [["id"], ["addr"], ["weight"]] v
  return {
    id := ← fs.required "id" d.text?
    addr := ← fs.required "addr" d.text?
    weight := ← fs.defaulted "weight" 1 (d.nat? Dialect.bound32) }

end Registration

/-- A worker as the registry keeps it. -/
structure WorkerRecord where
  id : String
  addr : String
  lastHeartbeat : Timestamp
  weight : Nat
deriving DecidableEq, Inhabited

namespace WorkerRecord

/-- The record of a registration at a given time. No weight is below 1. -/
def ofRegistration (r : Registration) (now : Timestamp) : WorkerRecord :=
  ⟨r.id, r.addr, now, max r.weight 1⟩

/-- Renews the last sign of life. -/
def touch (r : WorkerRecord) (now : Timestamp) : WorkerRecord := { r with lastHeartbeat := now }

/-- Whether the last sign of life is more than `threshold` before `now`. -/
def isStale (r : WorkerRecord) (now : Timestamp) (threshold : Duration) : Bool :=
  r.lastHeartbeat.olderThan now threshold

/-- The JSON object of a record. -/
def toJson (r : WorkerRecord) : Json.Value :=
  .object [("id", .string r.id), ("addr", .string r.addr),
    ("last_ping_time", .string r.lastHeartbeat.text), ("weight", .nat r.weight)]

/-- Reads a record. The weight is 1 unless it is given. -/
def read? (c : Json.Cursor) : Option WorkerRecord := do
  let fs ← Json.dialect.fields? [["id"], ["addr"], ["last_ping_time"], ["weight"]] c
  return {
    id := ← fs.required "id" Json.Cursor.text?
    addr := ← fs.required "addr" Json.Cursor.text?
    lastHeartbeat := ← fs.required "last_ping_time" fun c => c.text?.bind Timestamp.ofString?
    weight := ← fs.defaulted "weight" 1 (Json.Cursor.nat? Dialect.bound32) }

end WorkerRecord

/-- What a worker says about itself. -/
structure WorkerStatus where
  isHealthy : Bool := false
  activeTasks : Nat := 0
  completedTasks : Nat := 0
  failedTasks : Nat := 0
  cancelledTasks : Nat := 0
deriving DecidableEq, Inhabited

namespace WorkerStatus

/-- The JSON object of a status. -/
def toJson (s : WorkerStatus) : Json.Value :=
  .object [("is_healthy", .bool s.isHealthy), ("active_tasks", .nat s.activeTasks),
    ("completed_tasks", .nat s.completedTasks), ("failed_tasks", .nat s.failedTasks),
    ("cancelled_tasks", .nat s.cancelledTasks)]

/-- Reads a status. All of it may be left out. -/
def read? (c : Json.Cursor) : Option WorkerStatus := do
  let fs ← Json.dialect.fields? [["is_healthy"], ["active_tasks"], ["completed_tasks"],
    ["failed_tasks"], ["cancelled_tasks"]] c
  let count (name : String) : Option Nat := fs.defaulted name 0 (Json.Cursor.nat? Dialect.bound64)
  return {
    isHealthy := ← fs.defaulted "is_healthy" false Json.Cursor.bool?
    activeTasks := ← count "active_tasks"
    completedTasks := ← count "completed_tasks"
    failedTasks := ← count "failed_tasks"
    cancelledTasks := ← count "cancelled_tasks" }

end WorkerStatus

/-- What is known about a worker: its record, and what its last calls brought. -/
structure WorkerSummary where
  id : String
  addr : String
  lastHeartbeat : Timestamp
  weight : Nat
  errorCount : Nat
  status : WorkerStatus
deriving DecidableEq

namespace WorkerSummary

/-- The JSON object of a summary. -/
def toJson (s : WorkerSummary) : Json.Value :=
  .object [("id", .string s.id), ("addr", .string s.addr),
    ("last_heartbeat", .string s.lastHeartbeat.text), ("weight", .nat s.weight),
    ("error_count", .nat s.errorCount), ("status", s.status.toJson)]

/-- Reads a summary. -/
def read? (c : Json.Cursor) : Option WorkerSummary := do
  let fs ← Json.dialect.fields? [["id"], ["addr"], ["last_heartbeat"], ["weight"],
    ["error_count"], ["status"]] c
  return {
    id := ← fs.required "id" Json.Cursor.text?
    addr := ← fs.required "addr" Json.Cursor.text?
    lastHeartbeat := ← fs.required "last_heartbeat" fun c => c.text?.bind Timestamp.ofString?
    weight := ← fs.required "weight" (Json.Cursor.nat? Dialect.bound32)
    errorCount := ← fs.required "error_count" (Json.Cursor.nat? Dialect.bound32)
    status := ← fs.required "status" WorkerStatus.read? }

end WorkerSummary

end ConversionScheduler
