import ConversionScheduler.Config.Validity
import ConversionScheduler.Scheduler
import ConversionScheduler.Store.Site
/-!
# The application

The application is a scheduler built from a configuration, with the workers that are registered at
the start.

## Main definitions

* `Site.stores`, `Site.open` — the stores of a configuration, and the way to them.
* `Application`, `Application.build` — the application of a configuration.
* `Application.start`, `Application.run` — its life.
-/

namespace ConversionScheduler

/-- The stores of a configuration. Both of them share one connection to Redis. -/
def Site.stores (c : Config) : Stores Site where
  workers :=
    match c.workerStore.backend with
    | .redis => Site.redisWorkers ⟨c.redis.connection, c.redis.workerTtl⟩
    | .memory => Site.memoryWorkers c.redis.workerTtl
  tasks :=
    match c.taskStore.backend with
    | .redis => Site.redisTasks ⟨c.redis.connection⟩
    | .memory => Site.memoryTasks
  now := Site.now

/-- Connects to Redis if a configuration needs it. -/
def Site.open (c : Config) (s : Site) : Except Error Unit × Site :=
  if c.usesRedis then s.connect c.redis.url c.redis.connection else (.ok (), s)

/-- Why an application did not come about or to a good end. -/
inductive ApplicationFault
  | noStores (error : Error)
  | noBalancer (error : Error)
  | unstopped (error : Error)
deriving DecidableEq

namespace ApplicationFault

/-- The error at the bottom. -/
def error : ApplicationFault → Error
  | .noStores e => e
  | .noBalancer e => e
  | .unstopped e => e

/-- What was being done, if that is said. -/
def context? : ApplicationFault → Option String
  | .noStores _ => some "创建注册表失败"
  | .noBalancer _ => none
  | .unstopped _ => some "停止调度器失败"

/-- The messages of a fault, the outermost first; errors are worded by `wording`. -/
def chain (f : ApplicationFault) (wording : Error → String) : List String :=
  f.context?.toList ++ [wording f.error]

end ApplicationFault

/-- A scheduler, and the workers that are registered at the start. -/
structure Application (ω : Type) where
  scheduler : Scheduler ω
  workers : List Registration

namespace Application

variable {ω : Type}

open Manager (State)

/-- The application of a configuration over stores that are open. -/
def ofConfig (c : Config) (stores : Stores ω) : Application ω where
  scheduler := {
    stores := stores
    settings := Config.managerSettings c.scheduler c.workerClient
    rollback := c.scheduler.rollbackOnDispatchFailure }
  workers := c.workers

/-- The state in which an application begins: its eviction loop runs already. -/
def initial (a : Application ω) (balancer : Balancer) (world : ω) : State ω :=
  (a.scheduler.manager.start { world := world, balancer := balancer }).2

/-- Opens the stores of a configuration and makes the balancer. -/
def build (c : Config) (s : Site) : Except ApplicationFault Balancer × Site :=
  match s.open c with
  | (.error e, s') => (.error (.noStores e), s')
  | (.ok (), s') => ((Balancer.named? c.scheduler.loadBalancer).mapError .noBalancer, s')

/-- Registers workers one after the other, each whatever became of the others. -/
def registerAll (c : Scheduler ω) :
    List Registration → Operation (State ω) (List (Except Error Unit))
  | [] => return []
  | r :: rest => do
    let outcome ← (c.register r).attempt
    return outcome :: (← registerAll c rest)

/-- Whether a worker was registered. -/
def succeeded : Except Error Unit → Bool
  | .ok _ => true
  | .error _ => false

/-- Starts the eviction loop and registers the workers. The result is how many were registered. -/
def start (a : Application ω) : Operation (State ω) Nat := do
  Operation.update fun s => (a.scheduler.manager.start s).2
  let outcomes ← registerAll a.scheduler a.workers
  return (outcomes.filter succeeded).length

/-- Starts, and stops at once because the signal to do so has been given. -/
def run (a : Application ω) : Operation (State ω) (Except ApplicationFault Unit) := do
  let _ ← a.start
  match ← a.scheduler.stop.attempt with
  | .ok () => return .ok ()
  | .error e => return .error (.unstopped e)

end Application

end ConversionScheduler
