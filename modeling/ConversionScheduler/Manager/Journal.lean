import ConversionScheduler.Worker.Pool
/-!
# The journal of a manager

A manager notes what happens to its workers. It never reads the notes itself: together they are the
history against which its decisions can be judged.

## Main definitions

* `Contact` — a proxy as it is named in the journal.
* `EvictionCause`, `Note` — what can happen.
* `Note.success?` — the contact through which a worker showed that it is well.
* `Note.failure?` — the contact through which a worker failed a health check.
-/

namespace ConversionScheduler

/-- A proxy as it is named in the journal: its number, and the worker and the address it is for. -/
structure Contact where
  number : Nat
  id : String
  addr : String
deriving DecidableEq

/-- The name of the proxy with a number. -/
def Pool.contact (p : Pool) (n : Nat) : Contact := ⟨n, (p.proxy n).id, (p.proxy n).addr⟩

/-- Why a worker is evicted: it has been silent, or it failed its health checks, the last of which
was made through the given proxy. -/
inductive EvictionCause
  | stale
  | unhealthy (via : Contact)
deriving DecidableEq

/-- What can happen to a worker. -/
inductive Note
  /-- A worker was registered. -/
  | registered (r : Registration) (via : Contact)
  /-- A worker gave a sign of life. -/
  | heard (via : Contact)
  /-- The health of a worker is going to be checked, after this record was read under its id. -/
  | examined (id : String) (r : WorkerRecord) (via : Contact)
  /-- The health of a worker was checked. -/
  | checked (via : Contact) (passed : Bool)
  /-- The record that was read before a health check was written back after it. -/
  | renewed (r : WorkerRecord)
  /-- A worker took a task. -/
  | dispatched (via : Contact) (taskId : String)
  /-- A worker told about a task. -/
  | reported (via : Contact) (remoteId : String)
  /-- A client removed a worker. -/
  | removed (id : String)
  /-- A sweep removed a worker. -/
  | evicted (id : String) (cause : EvictionCause)
deriving DecidableEq

namespace Note

/-- The contact through which a worker showed that it is well, if that is what happened. -/
def success? : Note → Option Contact
  | registered _ via | heard via | checked via true | dispatched via _ | reported via _ => some via
  | examined .. | checked _ false | renewed _ | removed _ | evicted .. => none

/-- The contact through which a worker failed a health check, if that is what happened. -/
def failure? : Note → Option Contact
  | checked via false => some via
  | _ => none

end Note

end ConversionScheduler
