import ConversionScheduler.Proofs.Interleaving
import ConversionScheduler.Proofs.Pools
import ConversionScheduler.Proofs.Registry
import ConversionScheduler.Scheduler
/-!
# What the manager of the workers can do

All that the manager's decisions depend on is the world of the stores, the pool of proxies and the
journal. What any operation does to these between its start, its pauses and its end is one of a few
moves, or several of them. Whatever every move keeps, the manager keeps, however its operations
take turns.

## Main definitions

* `Manager.Ledger` — the world, the pool and the journal.
* `Manager.Move` — what can be done to them.
* `Manager.conduct` — the conduct in which only moves are made.
* `Journal.lastRegistration?` — the last registration of a worker.

## Main results

* `Manager.Move.extends`, `Manager.Move.suffix` — proxies and notes stay for good.
* `Manager.keeps_of_leads` — what every move keeps, the manager keeps.
-/

namespace ConversionScheduler

/-- The weight of a registration of 32 bits fits into its record. -/
lemma weight_ofRegistration_lt {q : Registration} (t : Timestamp)
    (h : q.weight < Dialect.bound32) :
    (WorkerRecord.ofRegistration q t).weight < Dialect.bound32 :=
  Nat.max_lt.mpr ⟨h, by decide⟩

/-- The calls about the record of a registration have a weight of 32 bits. -/
lemma isSized_ofRegistration {q : Registration} (t : Timestamp) (h : q.weight < Dialect.bound32) :
    (WorkerCall.add (.ofRegistration q t)).isSized = true ∧
      (WorkerCall.heartbeat (.ofRegistration q t)).isSized = true :=
  have hsized := decide_eq_true (weight_ofRegistration_lt t h)
  ⟨hsized, hsized⟩

/-- A proxy after a health check, which brought a status if it was passed. -/
def Proxy.judged (status? : Option WorkerStatus) (p : Proxy) : Proxy :=
  match status? with
  | some status => { p.resetErrors with status := status }
  | none => p.countError

/-- A health check leaves the proxy one for its worker at its address. -/
lemma Proxy.judged_name (status? : Option WorkerStatus) (p : Proxy) :
    (p.judged status?).id = p.id ∧ (p.judged status?).addr = p.addr := by
  cases status? <;> exact ⟨rfl, rfl⟩

/-- So does forgetting its errors. -/
lemma Proxy.resetErrors_name (p : Proxy) :
    p.resetErrors.id = p.id ∧ p.resetErrors.addr = p.addr := ⟨rfl, rfl⟩

/-- A request depends on the address of the worker, and on nothing else about it. -/
lemma Proxy.request_congr {p q : Proxy} (h : p.addr = q.addr) (method : Http.Method)
    (segments : List String) (body : Option String) :
    p.request method segments body = q.request method segments body := by
  have hendpoint : p.endpoint segments = q.endpoint segments := by
    rw [endpoint, endpoint, h]
  rw [request, request, hendpoint]

namespace Note

/-- The contact through which a worker did what it was asked to, if that is what happened. -/
def service? : Note → Option Contact
  | dispatched via _ | reported via _ => some via
  | _ => none

/-- The registration of a worker, if that is what happened. -/
def registration? (id : String) : Note → Option Registration
  | registered q _ => if q.id = id then some q else none
  | _ => none

end Note

/-- The last registration of a worker. -/
def Journal.lastRegistration? (id : String) (journal : List Note) : Option Registration :=
  journal.findSome? (Note.registration? id)

namespace Manager

/-- What the decisions of a manager depend on. -/
structure Ledger (ω : Type) where
  world : ω
  pool : Pool
  journal : List Note

variable {ω : Type}

/-- The ledger of a state. -/
def State.ledger (s : State ω) : Ledger ω := ⟨s.world, s.pool, s.journal⟩

/-- A worker with this record showed that it is there: its proxy has no errors any more. -/
def Ledger.greet (l : Ledger ω) (w : ω) (r : WorkerRecord) (note : Contact → Note) : Ledger ω :=
  let n := (l.pool.resolve r).1
  let pool := (l.pool.resolve r).2.change n Proxy.resetErrors
  ⟨w, pool, note (pool.contact n) :: l.journal⟩

/-- The health of the worker with this record is going to be checked. -/
def Ledger.examine (l : Ledger ω) (w : ω) (id : String) (r : WorkerRecord) : Ledger ω :=
  let pool := (l.pool.resolve r).2
  ⟨w, pool, .examined id r (pool.contact (l.pool.resolve r).1) :: l.journal⟩

variable (m : Manager ω) (idle : ω → ω → Prop)

/-- Whether there is a cause to evict a worker: its own silence, or enough errors of the proxy
through which its health was checked last. -/
def Ledger.Justifies (l : Ledger ω) (id : String) : EvictionCause → Prop
  | .stale => True
  | .unhealthy via => ∃ r, .examined id r via ∈ l.journal ∧ via = l.pool.contact via.number ∧
      m.settings.maxErrorCount ≤ (l.pool.proxy via.number).errorCount.toNat

/-- What can be done to the ledger. Outside of the manager only the world can change. -/
inductive Move : Ledger ω → Ledger ω → Prop
  | idle {l : Ledger ω} {w : ω} : idle l.world w → Move l { l with world := w }
  | looked {l : Ledger ω} (call : WorkerCall) : call.isRead →
      Move l { l with world := (call.perform m.workers l.world).2 }
  | refused {l : Ledger ω} (call : WorkerCall) {e : Failure} {w : ω} : call.isSized →
      call.perform m.workers l.world = (.error e, w) → Move l { l with world := w }
  /-- A worker that is registered is gone before its first sign of life is written. -/
  | unheard {l : Ledger ω} {q : Registration} {t : Timestamp} {e : Failure} {w₁ w₂ : ω} :
      q.weight < Dialect.bound32 →
      (WorkerCall.add (.ofRegistration q t)).perform m.workers l.world = (.ok .nothing, w₁) →
      (WorkerCall.heartbeat (.ofRegistration q t)).perform m.workers w₁ = (.error e, w₂) →
      Move l { l with world := w₂ }
  | registered {l : Ledger ω} {q : Registration} {t : Timestamp} {r : WorkerRecord} {w₁ w₂ : ω} :
      q.weight < Dialect.bound32 →
      (WorkerCall.add (.ofRegistration q t)).perform m.workers l.world = (.ok .nothing, w₁) →
      (WorkerCall.heartbeat (.ofRegistration q t)).perform m.workers w₁ = (.ok (.record r), w₂) →
      Move l (l.greet w₂ r (.registered q))
  | heard {l : Ledger ω} {id : String} {r₀ r : WorkerRecord} {w₁ w₂ : ω} :
      (WorkerCall.get id).perform m.workers l.world = (.ok (.record r₀), w₁) →
      (WorkerCall.heartbeat r₀).perform m.workers w₁ = (.ok (.record r), w₂) →
      Move l (l.greet w₂ r .heard)
  /-- A worker is gone before its sign of life is written. -/
  | unnoticed {l : Ledger ω} {id : String} {r : WorkerRecord} {e : Failure} {w₁ w₂ : ω} :
      (WorkerCall.get id).perform m.workers l.world = (.ok (.record r), w₁) →
      (WorkerCall.heartbeat r).perform m.workers w₁ = (.error e, w₂) →
      Move l { l with world := w₂ }
  | resolved {l : Ledger ω} (r : WorkerRecord) : Move l { l with pool := (l.pool.resolve r).2 }
  | examined {l : Ledger ω} {id : String} {r : WorkerRecord} {w : ω} :
      (WorkerCall.get id).perform m.workers l.world = (.ok (.record r), w) →
      Move l (l.examine w id r)
  | checked {l : Ledger ω} {id : String} {r : WorkerRecord} {n : Nat}
      (status? : Option WorkerStatus) :
      n < l.pool.made.length → .examined id r (l.pool.contact n) ∈ l.journal →
      Move l { l with
        pool := l.pool.change n (Proxy.judged status?)
        journal := .checked (l.pool.contact n) status?.isSome :: l.journal }
  | served {l : Ledger ω} {n : Nat} {note : Note} :
      n < l.pool.made.length → note.service? = some (l.pool.contact n) →
      Move l { l with
        pool := l.pool.change n Proxy.resetErrors
        journal := note :: l.journal }
  | renewed {l : Ledger ω} {id : String} {r r' : WorkerRecord} {via : Contact} {w : ω} :
      .examined id r via ∈ l.journal →
      (WorkerCall.heartbeat r).perform m.workers l.world = (.ok (.record r'), w) →
      Move l { l with world := w, journal := .renewed r' :: l.journal }
  /-- A worker is gone before it is known that it is well. -/
  | unrenewed {l : Ledger ω} {id : String} {r : WorkerRecord} {via : Contact} {e : Failure}
      {w : ω} :
      .examined id r via ∈ l.journal →
      (WorkerCall.heartbeat r).perform m.workers l.world = (.error e, w) →
      Move l { l with world := w }
  | removed {l : Ledger ω} {id : String} {w : ω} :
      (WorkerCall.remove id).perform m.workers l.world = (.ok .nothing, w) →
      Move l ⟨w, l.pool.drop id, .removed id :: l.journal⟩
  | evicted {l : Ledger ω} {id : String} {cause : EvictionCause} {w : ω} :
      l.Justifies m id cause →
      (WorkerCall.remove id).perform m.workers l.world = (.ok .nothing, w) →
      Move l ⟨w, l.pool.drop id, .evicted id cause :: l.journal⟩
  | forgotten {l : Ledger ω} (id : String) : Move l { l with pool := l.pool.drop id }

/-- The conduct in which only moves are made. -/
def conduct : Conduct (State ω) := .ofMoves State.ledger (Move m idle)

variable {m idle} {l l' : Ledger ω}

/-- Proxies stay for good. -/
lemma Move.extends (h : Move m idle l l') : l.pool.Extends l'.pool := by
  cases h with
  | idle | looked | refused | unheard | unnoticed | renewed | unrenewed => exact .refl _
  | registered | heard =>
    exact Pool.extends_resolve.trans (Pool.extends_change Proxy.resetErrors_name)
  | resolved | examined => exact Pool.extends_resolve
  | checked status? => exact Pool.extends_change (Proxy.judged_name status?)
  | served => exact Pool.extends_change Proxy.resetErrors_name
  | removed | evicted | forgotten => exact Pool.extends_drop _ _

/-- Notes stay for good. -/
lemma Move.suffix (h : Move m idle l l') : l.journal <:+ l'.journal := by
  cases h with
  | idle | looked | refused | unheard | unnoticed | resolved | unrenewed | forgotten =>
    exact List.suffix_refl _
  | _ => exact List.suffix_cons _ _

/-- Each worker's cached proxy remains one for that worker. -/
lemma Move.isKeyed (h : Move m idle l l') (hl : l.pool.IsKeyed) : l'.pool.IsKeyed := by
  cases h with
  | idle | looked | refused | unheard | unnoticed | renewed | unrenewed => exact hl
  | registered | heard => exact (hl.resolve _).change Proxy.resetErrors_name _
  | resolved | examined => exact hl.resolve _
  | checked status? => exact hl.change (Proxy.judged_name status?) _
  | served => exact hl.change Proxy.resetErrors_name _
  | removed | evicted | forgotten => exact hl.drop _

/-- What every move keeps, every conduct keeps. -/
lemma keeps_of_leads {p : Ledger ω → Prop} (hp : ∀ l l', Move m idle l l' → p l → p l')
    {s t : State ω} (h : (conduct m idle).leads s t) (hs : p s.ledger) : p t.ledger := by
  have key : ∀ l, Relation.ReflTransGen (Move m idle) s.ledger l → p l := by
    intro l hl
    induction hl with
    | refl => exact hs
    | tail _ hmove ih => exact hp _ _ hmove ih
  exact key _ h

variable {s t : State ω}

/-- Proxies stay for good, however many moves are made. -/
lemma extends_of_leads (h : (conduct m idle).leads s t) : s.pool.Extends t.pool :=
  keeps_of_leads (p := fun l => s.pool.Extends l.pool) (fun _ _ hmove hl => hl.trans hmove.extends)
    h (.refl _)

/-- So do notes. -/
lemma suffix_of_leads (h : (conduct m idle).leads s t) : s.journal <:+ t.journal :=
  keeps_of_leads (p := fun l => s.journal <:+ l.journal) (fun _ _ hmove hl => hl.trans hmove.suffix)
    h (List.suffix_refl _)

/-- Each worker's cached proxy remains one for that worker, however many moves are made. -/
lemma isKeyed_of_leads (h : (conduct m idle).leads s t) (hs : s.pool.IsKeyed) : t.pool.IsKeyed :=
  keeps_of_leads (p := fun l => l.pool.IsKeyed) (fun _ _ hmove => hmove.isKeyed) h hs

end Manager

end ConversionScheduler
