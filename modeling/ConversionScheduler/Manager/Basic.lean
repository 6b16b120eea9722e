import ConversionScheduler.Balancer
import ConversionScheduler.Manager.Journal
import ConversionScheduler.Metrics
import ConversionScheduler.Store.Basic
/-!
# Managing the workers

The manager knows which workers there are only from the store. What it keeps itself — proxies and
weights — is a cache: it is renewed from the record that was just read.

## Main definitions

* `Manager`, `ManagerSettings` — the store that is managed, and how.
* `Manager.State` — the world of the stores, and what the process itself keeps.
* `Manager.addWorker`, `Manager.removeWorker`, `Manager.heartbeat` — membership.
* `Manager.selectWorker`, `Manager.getWorker`, `Manager.listWorkers` — access.
-/

namespace ConversionScheduler

/-- How workers are managed. -/
structure ManagerSettings where
  evictionInterval : Duration
  staleThreshold : Duration
  healthCheckEnabled : Bool
  maxErrorCount : Nat
  requestTimeout : Duration
  connectTimeout : Duration
deriving DecidableEq, Inhabited

/-- The loop that evicts workers: when it is due, unless it has broken down. -/
inductive EvictionLoop
  | due (time : Duration)
  | brokenDown
deriving DecidableEq

/-- A manager of the workers in a store. -/
structure Manager (ω : Type) where
  workers : WorkerStore ω
  now : ω → Timestamp
  settings : ManagerSettings

/-- The world of the stores, and what the process itself keeps. -/
structure Manager.State (ω : Type) where
  world : ω
  pool : Pool := .empty
  balancer : Balancer
  metrics : Metrics := {}
  evictionLoop : Option EvictionLoop := none
  /-- The time that the timers of the process have counted. -/
  timer : Duration := ⟨0⟩
  /-- What has happened to the workers, the last first. -/
  journal : List Note := []

namespace Manager.State

variable {ω α : Type}

/-- An operation on the world. -/
def query (q : Query ω α) : Operation (State ω) α :=
  Operation.step fun s =>
    let (r, w) := q s.world
    (r, { s with world := w })

/-- The number of the proxy of a record. -/
def resolve (r : WorkerRecord) : Operation (State ω) Nat :=
  Operation.step fun s =>
    let (n, pool) := s.pool.resolve r
    (.ok n, { s with pool := pool })

/-- Changes a proxy. -/
def change (n : Nat) (f : Proxy → Proxy) : Operation (State ω) Unit :=
  Operation.update fun s => { s with pool := s.pool.change n f }

/-- Makes a call on behalf of a proxy. -/
def call (n : Nat) (c : Proxy → Call α) : Operation (State ω) α := fun s =>
  (c (s.pool.proxy n)).run (fun s => s.pool.proxy n)
    (fun p s => { s with pool := s.pool.change n fun _ => p }) s

/-- Lets the balancer take notice of a worker. -/
def observe (r : WorkerRecord) : Operation (State ω) Unit :=
  Operation.update fun s => { s with balancer := s.balancer.observe r.id r.weight }

/-- Drops the proxy and the weight of a worker. -/
def forget (s : State ω) (id : String) : State ω :=
  { s with pool := s.pool.drop id, balancer := s.balancer.forget id }

/-- Counts something. -/
def count (f : Metrics → Metrics) : Operation (State ω) Unit :=
  Operation.update fun s => { s with metrics := f s.metrics }

/-- Notes what has happened. -/
def note (f : State ω → Note) : Operation (State ω) Unit :=
  Operation.update fun s => { s with journal := f s :: s.journal }

end Manager.State

namespace Manager

variable {ω : Type}

open State (query resolve change observe note)

/-- The present time. -/
def time (m : Manager ω) : Operation (State ω) Timestamp := Operation.read fun s => m.now s.world

/-- Registers a worker, anew or again. Its proxy starts without errors. -/
def addWorker (m : Manager ω) (r : Registration) : Operation (State ω) Nat := do
  let now ← m.time
  let record := WorkerRecord.ofRegistration r now
  query (m.workers.add record)
  let record ← query (m.workers.heartbeat record)
  let n ← resolve record
  change n Proxy.resetErrors
  observe record
  note fun s => .registered r (s.pool.contact n)
  return n

/-- Takes a worker out of the store, and with it what is kept about it. -/
def withdraw (m : Manager ω) (id : String) : Operation (State ω) Unit := do
  query (m.workers.remove id)
  Operation.update fun s => s.forget id

/-- Removes a worker. -/
def removeWorker (m : Manager ω) (id : String) : Operation (State ω) Unit := do
  m.withdraw id
  note fun _ => .removed id

/-- Reads a record; a worker that is not there is no error. -/
def find? (m : Manager ω) (id : String) : Operation (State ω) (Option WorkerRecord) := do
  match ← (query (m.workers.get id)).attempt with
  | .ok record => return some record
  | .error (.workerNotFound _) => return none
  | .error e => Operation.fail e

/-- Selects one of the listed workers. One whose record is gone is struck off the list, so
`rounds` need not exceed its length. -/
def selectFrom (m : Manager ω) : Nat → List String → Operation (State ω) (Option Nat)
  | 0, _ => return none
  | rounds + 1, ids => do
    let choice ← Operation.step fun s =>
      let (choice, balancer) := s.balancer.select ids
      (.ok choice, { s with balancer := balancer })
    match choice with
    | none => return none
    | some id =>
      match ← m.find? id with
      | some record => return some (← resolve record)
      | none => m.selectFrom rounds (ids.filter (· ≠ id))

/-- Selects a worker, if there is one. -/
def selectWorker (m : Manager ω) : Operation (State ω) (Option Nat) := do
  let ids ← query m.workers.ids
  m.selectFrom ids.length ids

/-- The proxy of a worker. -/
def getWorker (m : Manager ω) (id : String) : Operation (State ω) Nat := do
  let record ← query (m.workers.get id)
  resolve record

/-- Takes notice of a worker's sign of life. -/
def heartbeat (m : Manager ω) (id : String) : Operation (State ω) WorkerRecord := do
  let record ← query (m.workers.get id)
  let record ← query (m.workers.heartbeat record)
  let n ← resolve record
  change n Proxy.resetErrors
  observe record
  note fun s => .heard (s.pool.contact n)
  return record

/-- What is known about a worker from its record and its proxy. -/
def summary (r : WorkerRecord) (p : Proxy) : WorkerSummary :=
  ⟨r.id, r.addr, r.lastHeartbeat, r.weight, p.errorCount.toNat, p.status⟩

/-- What is known about the listed workers. Those that are gone are left out. -/
def summaries (m : Manager ω) : List String → Operation (State ω) (List WorkerSummary)
  | [] => return []
  | id :: rest => do
    match ← m.find? id with
    | none => m.summaries rest
    | some record =>
      let n ← resolve record
      let p ← Operation.read fun s => s.pool.proxy n
      return summary record p :: (← m.summaries rest)

/-- What is known about the workers. -/
def listWorkers (m : Manager ω) : Operation (State ω) (List WorkerSummary) := do
  let ids ← query m.workers.ids
  m.summaries ids

end Manager

end ConversionScheduler
