import ConversionScheduler.Error
import ConversionScheduler.Table
/-!
# Choosing a worker

A balancer picks one of the listed workers. Both of them keep a counter that only ever goes up:
round robin takes the worker at the counter's position, and weighted round robin the one at that
position in the list in which each worker is repeated as often as it has weight.

## Main definitions

* `Balancer`, `Balancer.named?` — the balancers, by name.
* `Balancer.select` — the choice, and the balancer after it.
* `Balancer.observe`, `Balancer.forget` — the weights of workers.
-/

namespace ConversionScheduler

/-- A balancer with its counter, which wraps around at 64 bits. -/
inductive Balancer
  | roundRobin (counter : UInt64)
  | weighted (counter : UInt64) (weights : Table String Nat)

namespace Balancer

/-- The names of the balancers. -/
def names : List String := ["rr", "wrr"]

/-- The balancer of a name, in its initial state. -/
def named? (name : String) : Except Error Balancer :=
  if name = "rr" then .ok (.roundRobin 0)
  else if name = "wrr" then .ok (.weighted 0 .empty)
  else .error (.configuration (.unknownBalancer name))

/-- The name of a balancer. -/
def name : Balancer → String
  | .roundRobin _ => "rr"
  | .weighted .. => "wrr"

/-- The weight of a worker, 1 unless another is known. -/
def weightOf (weights : Table String Nat) (id : String) : Nat := max ((weights.get? id).getD 1) 1

/-- The worker in whose share of the total weight `slot` falls. -/
def pick? (weights : Table String Nat) : Nat → List String → Option String
  | _, [] => none
  | slot, id :: rest =>
    let weight := weightOf weights id
    if slot < weight then some id else pick? weights (slot - weight) rest

/-- The weight of all listed workers. -/
def totalWeight (weights : Table String Nat) (ids : List String) : Nat :=
  (ids.map (weightOf weights)).foldr (· + ·) 0

/-- Chooses one of the listed workers. If none is listed the counter stays as it is. -/
def select (b : Balancer) (ids : List String) : Option String × Balancer :=
  if ids.isEmpty then (none, b)
  else
    match b with
    | .roundRobin counter => (ids[counter.toNat % ids.length]?, .roundRobin (counter + 1))
    | .weighted counter weights =>
      (pick? weights (counter.toNat % totalWeight weights ids) ids, .weighted (counter + 1) weights)

/-- Sets the weight of a worker, at least 1. -/
def setWeight (b : Balancer) (id : String) (weight : Nat) : Balancer :=
  match b with
  | .roundRobin counter => .roundRobin counter
  | .weighted counter weights => .weighted counter (weights.insert id (max weight 1))

/-- Takes notice of a worker and its weight. -/
def observe (b : Balancer) (id : String) (weight : Nat) : Balancer := b.setWeight id weight

/-- Forgets the weight of a worker. -/
def forget (b : Balancer) (id : String) : Balancer :=
  match b with
  | .roundRobin counter => .roundRobin counter
  | .weighted counter weights => .weighted counter (weights.erase id)

end Balancer

end ConversionScheduler
