import ConversionScheduler.Table
import ConversionScheduler.Worker.Proxy
/-!
# The pool of proxies

Proxies are numbered in the order in which they are made. An operation that waits for a worker
holds on to its proxy by the number, even if in the meantime another proxy has taken its place in
the cache.

## Main definitions

* `Pool` — the proxies, and which of them is cached for which worker.
* `Pool.resolve` — the cached proxy of a record, or a new one.
* `Pool.change`, `Pool.drop` — changing a proxy, and forgetting it.
-/

namespace ConversionScheduler

/-- The proxies that were made, and the number of the cached one of each worker. -/
structure Pool where
  made : List Proxy
  cached : Table String Nat

namespace Pool

/-- No proxies. -/
def empty : Pool := ⟨[], .empty⟩

/-- A pool in which no proxy was ever made. -/
instance : Inhabited Pool := ⟨empty⟩

/-- The proxy with a number. -/
def proxy (p : Pool) (n : Nat) : Proxy := p.made[n]?.getD default

/-- Changes the proxy with a number. -/
def change (p : Pool) (n : Nat) (f : Proxy → Proxy) : Pool := { p with made := p.made.modify n f }

/-- The cached proxy of a worker. -/
def lookup? (p : Pool) (id : String) : Option Proxy := (p.cached.get? id).bind (p.made[·]?)

/-- Makes a new proxy for a record and caches it. -/
def make (p : Pool) (r : WorkerRecord) : Nat × Pool :=
  (p.made.length, ⟨p.made ++ [Proxy.ofRecord r], p.cached.insert r.id p.made.length⟩)

/-- The cached proxy of a record. If there is none, or one with another address, a new one is
made. -/
def resolve (p : Pool) (r : WorkerRecord) : Nat × Pool :=
  match p.cached.get? r.id with
  | some n => if (p.proxy n).addr = r.addr then (n, p) else p.make r
  | none => p.make r

/-- Forgets the cached proxy of a worker. -/
def drop (p : Pool) (id : String) : Pool := { p with cached := p.cached.erase id }

end Pool

end ConversionScheduler
