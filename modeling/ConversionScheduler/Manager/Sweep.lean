import ConversionScheduler.Manager.Basic
/-!
# Sweeps

A sweep looks at every worker and evicts those that have been silent for too long or have failed
too many health checks in a row. One worker that cannot be judged does not keep the others from
being judged.

## Main definitions

* `Verdict` — what became of a worker.
* `SweepReport` — how often each verdict was reached.
* `Manager.judge` — the verdict on one worker.
* `Manager.sweep` — the verdicts on all, and the end of what is kept about others.
-/

namespace ConversionScheduler

/-- What became of a worker. -/
inductive Verdict
  | missing
  | kept
  | evictedStale
  | evictedUnhealthy
deriving DecidableEq

/-- The outcome of a sweep. -/
structure SweepReport where
  examined : Nat := 0
  evictedStale : Nat := 0
  evictedUnhealthy : Nat := 0
  /-- The workers that could not be judged. -/
  failed : Nat := 0
deriving DecidableEq, Inhabited

namespace SweepReport

/-- The number of evicted workers. -/
def evicted (r : SweepReport) : Nat := r.evictedStale + r.evictedUnhealthy

/-- Enters what became of a worker. -/
def enter (r : SweepReport) : Except Error Verdict → SweepReport
  | .error _ => { r with failed := r.failed + 1 }
  | .ok .missing => r
  | .ok .kept => { r with examined := r.examined + 1 }
  | .ok .evictedStale =>
    { r with examined := r.examined + 1, evictedStale := r.evictedStale + 1 }
  | .ok .evictedUnhealthy =>
    { r with examined := r.examined + 1, evictedUnhealthy := r.evictedUnhealthy + 1 }

end SweepReport

namespace Manager

variable {ω : Type}

open State (query resolve count note)

/-- Evicts a worker for a cause. -/
def evict (m : Manager ω) (id : String) (cause : State ω → EvictionCause) :
    Operation (State ω) Unit := do
  m.withdraw id
  count fun c => { c with evicted := c.evicted + 1 }
  note fun s => .evicted id (cause s)

/-- Renews the record of a worker that answered, unless it has been removed meanwhile. -/
def renew (m : Manager ω) (r : WorkerRecord) : Operation (State ω) Unit := do
  match ← (query (m.workers.heartbeat r)).attempt with
  | .ok renewed => note fun _ => .renewed renewed
  | .error (.workerNotFound _) => return ()
  | .error e => Operation.fail e

/-- Judges a worker, whose record was read under `id`, by a health check made through the proxy with
the number `n`. -/
def conclude (m : Manager ω) (id : String) (r : WorkerRecord) (n : Nat) :
    Except Error WorkerStatus → Operation (State ω) Verdict
  | .ok _ => do
    note fun s => .checked (s.pool.contact n) true
    m.renew r
    return .kept
  | .error _ => do
    note fun s => .checked (s.pool.contact n) false
    count fun c => { c with healthCheckFailures := c.healthCheckFailures + 1 }
    let errors ← Operation.read fun s => (s.pool.proxy n).errorCount.toNat
    if m.settings.maxErrorCount ≤ errors then
      m.evict id fun s => .unhealthy (s.pool.contact n)
      return .evictedUnhealthy
    else return .kept

/-- Checks the health of a worker, whose record was read under `id`, and judges it by that. -/
def probe (m : Manager ω) (id : String) (r : WorkerRecord) : Operation (State ω) Verdict := do
  let n ← resolve r
  note fun s => .examined id r (s.pool.contact n)
  let outcome ← (State.call n Proxy.checkStatus).attempt
  m.conclude id r n outcome

/-- Judges one worker as of a given time. -/
def judge (m : Manager ω) (now : Timestamp) (id : String) : Operation (State ω) Verdict := do
  match ← m.find? id with
  | none => return .missing
  | some record =>
    if record.isStale now m.settings.staleThreshold then
      m.evict id fun _ => .stale
      return .evictedStale
    else if m.settings.healthCheckEnabled then m.probe id record
    else return .kept

/-- Judges the listed workers. -/
def judgeAll (m : Manager ω) (now : Timestamp) :
    SweepReport → List String → Operation (State ω) SweepReport
  | report, [] => return report
  | report, id :: rest => do
    let verdict ← (m.judge now id).attempt
    m.judgeAll now (report.enter verdict) rest

/-- Drops what is kept about workers that are not in the store. -/
def prune (m : Manager ω) : Operation (State ω) Unit := do
  let live ← query m.workers.ids
  Operation.update fun s =>
    (s.pool.cached.keys.filter fun id => !live.contains id).foldl State.forget s

/-- Judges all workers. -/
def sweep (m : Manager ω) : Operation (State ω) SweepReport := do
  let ids ← query m.workers.ids
  let now ← m.time
  let report ← m.judgeAll now {} ids
  let _ ← m.prune.attempt
  return report

end Manager

end ConversionScheduler
