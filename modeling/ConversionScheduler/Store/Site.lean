import ConversionScheduler.Redis.Address
import ConversionScheduler.Redis.Line
import ConversionScheduler.Redis.Tasks
import ConversionScheduler.Redis.Workers
import ConversionScheduler.Store.Memory
/-!
# The world of a scheduler

A scheduler's stores are in memory or in Redis, each as it is configured.

## Main definitions

* `Site` — the clocks, the stores in memory, and the line to Redis.
* `Site.memoryWorkers`, `Site.redisWorkers`, `Site.memoryTasks`, `Site.redisTasks` — the stores.
* `Site.connect` — a connection to Redis.
-/

namespace ConversionScheduler

/-- The clocks, the stores in memory, and the line to Redis. -/
structure Site where
  clock : Clock
  workers : MemoryWorkers := .empty
  tasks : MemoryTasks := .empty
  line : Redis.Line := {}

namespace Site

variable {α : Type}

/-- The time. -/
def now (s : Site) : Timestamp := s.clock.wall

/-- An operation on the workers in memory. -/
def onWorkers (q : Clock → Query MemoryWorkers α) : Query Site α := fun s =>
  Query.onPart workers (fun ws s => { s with workers := ws }) (q s.clock) s

/-- An operation on the tasks in memory. -/
def onTasks (q : Timestamp → Query MemoryTasks α) : Query Site α := fun s =>
  Query.onPart tasks (fun ts s => { s with tasks := ts }) (q s.now) s

/-- A dialogue over the line. -/
def talk (d : Redis.Dialogue α) (s : Site) : Except Error α × Site :=
  let (r, l) := d.runOver Redis.Line.exchange s.line
  (r, { s with line := l })

/-- A dialogue over the line, as an operation of a store. -/
def onLine (d : Timestamp → Redis.Dialogue α) : Query Site α := fun s =>
  let (r, s') := s.talk (d s.now)
  (r.mapError Failure.reported, s')

/-- The workers in memory, whose records run out after `ttl`. -/
def memoryWorkers (ttl : Duration) : WorkerStore Site where
  add r := onWorkers fun c => MemoryWorkers.add ttl c r
  remove id := onWorkers fun _ => MemoryWorkers.remove id
  get id := onWorkers fun c => MemoryWorkers.get c id
  ids := onWorkers MemoryWorkers.ids
  heartbeat r := onWorkers fun c => MemoryWorkers.heartbeat ttl c r
  close := onWorkers fun _ => MemoryWorkers.close

/-- The workers in Redis. -/
def redisWorkers (w : RedisWorkers) : WorkerStore Site where
  add r := onLine fun _ => w.add r
  remove id := onLine fun _ => w.remove id
  get id := onLine fun _ => w.get id
  ids := onLine fun _ => w.ids
  heartbeat r := onLine fun now => w.heartbeat now r
  close := Query.done ()

/-- The tasks in memory. -/
def memoryTasks : TaskStore Site where
  add t := onTasks fun now => MemoryTasks.add now t
  get id := onTasks fun _ => MemoryTasks.get id
  update t := onTasks fun now => MemoryTasks.update now t
  remove id := onTasks fun _ => MemoryTasks.remove id
  close := Query.done ()

/-- The tasks in Redis. -/
def redisTasks (t : RedisTasks) : TaskStore Site where
  add task := onLine fun now => t.add now task
  get id := onLine fun _ => t.get id
  update task := onLine fun now => t.update now task
  remove id := onLine fun _ => t.remove id
  close := Query.done ()

/-- Connects to a server and makes sure that it answers. -/
def connect (address : String) (c : Redis.Connection) (s : Site) : Except Error Unit × Site :=
  if !Redis.isAddress address then (.error (.configuration (.redisUrl "not an address")), s)
  else if !s.line.reachable then
    (.error (.storeUnavailable (.timedOut .connecting c.timeout)), s)
  else s.talk c.ping

end Site

end ConversionScheduler
