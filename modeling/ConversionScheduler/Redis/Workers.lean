import ConversionScheduler.Json.Printer
import ConversionScheduler.Redis.Dialogue
/-!
# Workers in Redis

Each record is a key of its own that runs out, and a set lists the ids. The records alone decide
who is there: an id in the set whose record has run out counts for nothing, and is struck off
whenever it is met.

## Main definitions

* `RedisWorkers` — the connection and the time after which a record runs out.
* `RedisWorkers.add`, `RedisWorkers.remove`, `RedisWorkers.get`, `RedisWorkers.ids`,
  `RedisWorkers.heartbeat` — the operations.
-/

namespace ConversionScheduler

open Redis (Dialogue Command Reply Connection)

/-- Workers in Redis. -/
structure RedisWorkers where
  connection : Connection
  ttl : Duration
deriving DecidableEq

namespace RedisWorkers

/-- The key of the set of ids. -/
def setKey (w : RedisWorkers) : String := w.connection.key "worker:set"

/-- The key of a record. -/
def infoKey (w : RedisWorkers) (id : String) : String := w.connection.key "worker:info:" ++ id

/-- The seconds after which a record runs out: whole ones, and at least one. -/
def expiry (w : RedisWorkers) : Nat := max w.ttl.wholeSeconds 1

/-- The text of a record. -/
def payload (r : WorkerRecord) : String := Json.render r.toJson

/-- The record of a text. -/
def record? (s : String) : Except Error WorkerRecord :=
  match Json.decode? WorkerRecord.read? s with
  | some r => .ok r
  | none => .error .undecodable

/-- Writes a record and lists its id. -/
def add (w : RedisWorkers) (r : WorkerRecord) : Dialogue Unit :=
  w.connection.transact
    [.set (w.infoKey r.id) (payload r) (some w.expiry) false, .sadd w.setKey [r.id]]

/-- Removes a record and its id. -/
def remove (w : RedisWorkers) (id : String) : Dialogue Unit :=
  w.connection.transact [.srem w.setKey [id], .del [w.infoKey id]]

/-- Strikes off ids without a record. Whether that works does not matter. -/
def strikeOff (w : RedisWorkers) (ids : List String) : Dialogue Unit := do
  if ids.isEmpty then return ()
  let _ ← (w.connection.ask (.srem w.setKey ids) Reply.integer?).attempt

/-- Reads a record. -/
def get (w : RedisWorkers) (id : String) : Dialogue WorkerRecord := do
  match ← w.connection.ask (.get (w.infoKey id)) Reply.optionalText? with
  | some s => .done (record? s)
  | none =>
    w.strikeOff [id]
    .done (.error (.workerNotFound id))

/-- The listed ids whose record is there, in ascending order. -/
def ids (w : RedisWorkers) : Dialogue (List String) := do
  let members ← w.connection.ask (.smembers w.setKey) Reply.texts?
  if members.isEmpty then return []
  let records ← w.connection.ask (.mget (members.map w.infoKey)) Reply.optionalTexts?
  let found := members.zip records
  w.strikeOff ((found.filter (·.2.isNone)).map (·.1))
  return sortIds ((found.filter (·.2.isSome)).map (·.1))

/-- Renews a record that is there. The list of ids is left alone. -/
def heartbeat (w : RedisWorkers) (now : Timestamp) (r : WorkerRecord) : Dialogue WorkerRecord := do
  let r' := r.touch now
  let written ← w.connection.ask (.set (w.infoKey r'.id) (payload r') (some w.expiry) true)
    Reply.optionalText?
  if written.isSome then return r' else .done (.error (.workerNotFound r'.id))

end RedisWorkers

end ConversionScheduler
