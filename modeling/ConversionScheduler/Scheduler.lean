import ConversionScheduler.Manager.Eviction
/-!
# The scheduler

A task is written to the store before a worker is asked to take it, and once more with its
assignment when the worker has agreed. From then on only that worker is asked about it.

## Main definitions

* `Scheduler` — the stores, the manager of the workers, and what to do about failed dispatches.
* `Scheduler.execute` — finds a worker for a task.
* `Scheduler.schedule`, `Scheduler.status` — what a client can do with tasks.
* `Scheduler.inquire` — asking the worker of a task.
* `Scheduler.stop` — the end.
-/

namespace ConversionScheduler

/-- A scheduler over two stores. -/
structure Scheduler (ω : Type) where
  stores : Stores ω
  settings : ManagerSettings
  /-- Whether a task that no worker took is removed again. -/
  rollback : Bool

namespace Scheduler

variable {ω : Type}

open Manager (State)
open Manager.State (query count note)

/-- The manager of the workers. -/
def manager (c : Scheduler ω) : Manager ω := ⟨c.stores.workers, c.stores.now, c.settings⟩

/-- Asks one of the workers to take a task. No other one is asked if it does not. -/
def execute (c : Scheduler ω) (t : Task) : Operation (State ω) Task := do
  match ← c.manager.selectWorker with
  | none => Operation.fail .noWorkerAvailable
  | some n =>
    let assigned ← State.call n fun p => p.dispatch t
    note fun s => .dispatched (s.pool.contact n) t.id
    return assigned

/-- Asks a given worker about a task. -/
def remoteStatus (c : Scheduler ω) (remoteId workerId : String) :
    Operation (State ω) WorkerReport := do
  let n ← c.manager.getWorker workerId
  let report ← State.call n fun p => p.taskStatus remoteId
  note fun s => .reported (s.pool.contact n) remoteId
  return report

/-- Removes a task that no worker took, if that is asked for. -/
def rollBack (c : Scheduler ω) (id : String) : Operation (State ω) Unit := do
  if c.rollback then
    let _ ← (query (c.stores.tasks.remove id)).attempt

/-- Takes a task: writes it, finds a worker for it, and writes the assignment. -/
def schedule (c : Scheduler ω) (t : Task) : Operation (State ω) Task := do
  query (c.stores.tasks.add t)
  match ← (c.execute t).attempt with
  | .ok assigned =>
    query (c.stores.tasks.update assigned)
    count fun m => { m with dispatched := m.dispatched + 1 }
    return assigned
  | .error e =>
    count fun m => { m with dispatchFailures := m.dispatchFailures + 1 }
    c.rollBack t.id
    Operation.fail e

/-- Asks the worker of a task, which was read under `id`, and removes the task once it has ended. -/
def inquire (c : Scheduler ω) (id : String) (t : Task) (a : Assignment) :
    Operation (State ω) TaskReport := do
  let report ← c.remoteStatus a.remoteId a.workerId
  if report.state.isTerminal then query (c.stores.tasks.remove id)
  return .ofWorker t report

/-- What is known about a task. The worker of an assigned one is asked. -/
def status (c : Scheduler ω) (id : String) : Operation (State ω) TaskReport := do
  let t ← query (c.stores.tasks.get id)
  match t.assignment with
  | none => return .ofTask t
  | some a => c.inquire id t a

/-- Registers a worker. -/
def register (c : Scheduler ω) (r : Registration) : Operation (State ω) Unit := do
  let _ ← c.manager.addWorker r

/-- Ends the eviction loop and closes both stores. -/
def stop (c : Scheduler ω) : Operation (State ω) Unit := do
  c.manager.close
  query c.stores.tasks.close

end Scheduler

end ConversionScheduler
