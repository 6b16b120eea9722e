/-!
# Counters

## Main definitions

* `Metrics` — what the scheduler counts.
* `Metrics.named` — the counters with their names.
-/

namespace ConversionScheduler

/-- What the scheduler counts. -/
structure Metrics where
  dispatched : Nat := 0
  dispatchFailures : Nat := 0
  evicted : Nat := 0
  healthCheckFailures : Nat := 0
deriving DecidableEq, Inhabited

/-- The counters with their names. -/
def Metrics.named (m : Metrics) : List (String × Nat) :=
  [("docsched_dispatch_failures_total", m.dispatchFailures),
    ("docsched_tasks_dispatched_total", m.dispatched),
    ("docsched_worker_health_check_failures_total", m.healthCheckFailures),
    ("docsched_workers_evicted_total", m.evicted)]

end ConversionScheduler
