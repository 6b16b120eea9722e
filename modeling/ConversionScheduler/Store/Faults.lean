import ConversionScheduler.Store.Basic
/-!
# Stores that fail on demand

To see what the scheduler does when a store cannot be used, a world is wrapped into one with rules:
each lets some calls of a method fail before they reach the store. The listing of workers can also
be made to name workers that are not there.

## Main definitions

* `StoreMethod` — what can fail.
* `FaultRule`, `Faulty` — the rules, and a world with rules.
* `Stores.withFaults` — stores in such a world.
-/

namespace ConversionScheduler

/-- The methods of the two stores. -/
inductive StoreMethod
  | addWorker
  | removeWorker
  | getWorker
  | listWorkers
  | heartbeat
  | closeWorkers
  | addTask
  | getTask
  | updateTask
  | removeTask
  | closeTasks
deriving DecidableEq

namespace StoreMethod

/-- The word for a method. -/
def word : StoreMethod → String
  | .addWorker => "worker_add"
  | .removeWorker => "worker_del"
  | .getWorker => "worker_get"
  | .listWorkers => "worker_ids"
  | .heartbeat => "worker_heartbeat"
  | .closeWorkers => "worker_close"
  | .addTask => "task_add"
  | .getTask => "task_get"
  | .updateTask => "task_update"
  | .removeTask => "task_del"
  | .closeTasks => "task_close"

/-- The methods there are. -/
def all : List StoreMethod :=
  [.addWorker, .removeWorker, .getWorker, .listWorkers, .heartbeat, .closeWorkers, .addTask,
    .getTask, .updateTask, .removeTask, .closeTasks]

/-- The method of a word. -/
def ofWord? (w : String) : Option StoreMethod := all.find? fun m => m.word = w

end StoreMethod

/-- The errors that a rule can bring about. -/
inductive FaultKind
  | unavailable
  | workerMissing
  | taskMissing
deriving DecidableEq

/-- The error of a kind for a call about an id. -/
def FaultKind.error (k : FaultKind) (m : StoreMethod) (id : String) : Error :=
  match k with
  | .unavailable => .storeUnavailable (.other ("injected " ++ m.word))
  | .workerMissing => .workerNotFound id
  | .taskMissing => .taskNotFound id

/-- Lets calls fail, after `skip` of them and as often as `times` says. -/
structure FaultRule where
  method : StoreMethod
  /-- The id that the call has to be about, if not any. -/
  id : Option String
  kind : FaultKind
  skip : Nat
  times : Option Nat
deriving DecidableEq

namespace FaultRule

/-- Whether the rule is about a call. -/
def concerns (r : FaultRule) (m : StoreMethod) (id : String) : Bool :=
  r.method = m && r.id.all (· = id)

/-- Tries the rules in order. One that still skips calls lets the next ones be tried. -/
def apply (m : StoreMethod) (id : String) : List FaultRule → Option Error × List FaultRule
  | [] => (none, [])
  | r :: rest =>
    let next (r : FaultRule) : Option Error × List FaultRule :=
      let (e, rest') := apply m id rest
      (e, r :: rest')
    if !r.concerns m id then next r
    else if 0 < r.skip then next { r with skip := r.skip - 1 }
    else if r.times = some 0 then next r
    else (some (r.kind.error m id), { r with times := r.times.map (· - 1) } :: rest)

end FaultRule

/-- A world with rules, and with ids that are listed although nothing is known about them. -/
structure Faulty (ω : Type) where
  base : ω
  rules : List FaultRule := []
  dangling : List String := []

namespace Faulty

variable {ω α : Type}

/-- A call that a rule may let fail. -/
def guarded (m : StoreMethod) (id : String) (q : Query ω α) : Query (Faulty ω) α := fun w =>
  match FaultRule.apply m id w.rules with
  | (some e, rules) => (.error (.reported e), { w with rules := rules })
  | (none, rules) =>
    let (r, base) := q w.base
    (r, { w with base := base, rules := rules })

end Faulty

/-- Stores in a world with rules. -/
def Stores.withFaults {ω : Type} (s : Stores ω) : Stores (Faulty ω) where
  workers := {
    add := fun r => Faulty.guarded .addWorker r.id (s.workers.add r)
    remove := fun id => Faulty.guarded .removeWorker id (s.workers.remove id)
    get := fun id => Faulty.guarded .getWorker id (s.workers.get id)
    ids := fun w =>
      match Faulty.guarded .listWorkers "" s.workers.ids w with
      | (.ok ids, w') =>
        (.ok (if w'.dangling.isEmpty then ids else sortIds (ids ++ w'.dangling)), w')
      | r => r
    heartbeat := fun r => Faulty.guarded .heartbeat r.id (s.workers.heartbeat r)
    close := Faulty.guarded .closeWorkers "" s.workers.close }
  tasks := {
    add := fun t => Faulty.guarded .addTask t.id (s.tasks.add t)
    get := fun id => Faulty.guarded .getTask id (s.tasks.get id)
    update := fun t => Faulty.guarded .updateTask t.id (s.tasks.update t)
    remove := fun id => Faulty.guarded .removeTask id (s.tasks.remove id)
    close := Faulty.guarded .closeTasks "" s.tasks.close }
  now := fun w => s.now w.base

end ConversionScheduler
