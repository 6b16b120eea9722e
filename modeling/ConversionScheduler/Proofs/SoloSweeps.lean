import ConversionScheduler.Proofs.Judgements
import ConversionScheduler.Proofs.Lookups
import ConversionScheduler.Proofs.Polling
import ConversionScheduler.Proofs.SerialRuns
import Mathlib.Logic.Function.Basic
/-!
# Sweeps by themselves

A sweep shares its state between the workers: the report, the pool of proxies, the balancer and the
store. If no other operation overlaps with it, then each worker is nevertheless judged as if it were
the only one. What is told here about a run of a sweep are the requests to the workers, the calls of
the store, and what is kept about each worker at the end.

## Main definitions

* `Act.Inquires` — how an operation ends, and after which requests, if nobody else acts.
* `WorkerStore.Serves` — a store whose calls fail without an effect or do what they should.
* `Manager.State.Accords` — a state in which the given things are kept about each worker.

## Main results

* `Manager.inquires_judge` — one worker is judged, and nothing about the others changes.
* `Manager.inquires_judgeAll` — all listed workers are judged, each by itself.
* `Manager.inquires_sweep` — a sweep.
-/

namespace ConversionScheduler

open Manager (State)
open Manager.State (query resolve change note count call)
open Relation (ReflTransGen)

/-! ## Inquiries -/

/-- A request, what it came to, and when. -/
structure Inquiry where
  request : Http.Request
  outcome : Http.Outcome
  time : Timestamp
deriving DecidableEq

namespace Act

variable {σ α β : Type} {clock : σ → Timestamp} {idle : σ → σ → Prop}
  {p : List Inquiry → α → σ → Prop} {q : List Inquiry → β → σ → Prop} {a : Act σ α}

/-- Whether an operation can only end with `post` if nothing but `idle` happens while it waits.
What it ends with may depend on its requests. -/
def Inquires (clock : σ → Timestamp) (idle : σ → σ → Prop) (post : List Inquiry → α → σ → Prop) :
    Act σ α → Prop
  | finished x t => post [] x t
  | waiting r t k => ∀ o u, ReflTransGen idle t u →
      (k o u).Inquires clock idle fun log => post (⟨r, o, clock u⟩ :: log)

/-- What an operation can end with may be weakened. -/
lemma Inquires.mono {p' : List Inquiry → α → σ → Prop} (h : a.Inquires clock idle p)
    (hp : ∀ log x t, p log x t → p' log x t) : a.Inquires clock idle p' := by
  induction a generalizing p p' with
  | finished x t => exact hp [] x t h
  | waiting r t k ih => exact fun o u hu => ih o u (h o u hu) fun log => hp (_ :: log)

/-- What follows an operation takes up where it ended. -/
theorem Inquires.andThen {f : α → σ → Act σ β} (h : a.Inquires clock idle p)
    (hf : ∀ log x t, p log x t → (f x t).Inquires clock idle fun log' => q (log ++ log')) :
    (a.andThen f).Inquires clock idle q := by
  induction a generalizing p q with
  | finished x t => exact hf [] x t h
  | waiting r t k ih =>
    exact fun o u hu => ih o u (h o u hu) fun log x t hx => hf (_ :: log) x t hx

end Act

namespace Operation

variable {σ α β : Type} {clock : σ → Timestamp} {idle : σ → σ → Prop} {s : σ} {x : Operation σ α}
  {p : List Inquiry → Except Failure α → σ → Prop}

/-- A sequence whose first part cannot fail. -/
lemma inquires_bind {f : α → Operation σ β} {q : List Inquiry → Except Failure β → σ → Prop}
    (hx : (x s).Inquires clock idle p)
    (hf : ∀ log r t, p log r t → ∃ a, r = .ok a ∧
      (f a t).Inquires clock idle fun log' => q (log ++ log')) :
    ((x >>= f) s).Inquires clock idle q := by
  refine hx.andThen fun log r t hr => ?_
  obtain ⟨a, rfl, ha⟩ := hf log r t hr
  exact ha

/-- An operation that does not crash can be attempted. -/
lemma inquires_attempt {q : List Inquiry → Except Failure (Except Error α) → σ → Prop}
    (hx : (x s).Inquires clock idle p)
    (hq : ∀ log r t, p log r t → ∃ outcome : Except Error α,
      r = outcome.mapError .reported ∧ q log (.ok outcome) t) :
    (x.attempt s).Inquires clock idle q := by
  refine hx.andThen fun log r t hr => ?_
  obtain ⟨outcome, rfl, houtcome⟩ := hq log r t hr
  cases outcome <;>
  · show q (log ++ []) _ t
    rwa [List.append_nil]

end Operation

/-- The inquiry that a judgement takes in the given circumstances, if it takes one. -/
def Judgement.inquiries (j : Judgement) (c : Circumstances) : List Inquiry :=
  j.request?.toList.map fun r => ⟨r, c.response, c.time⟩

/-- A call on behalf of a proxy ends as it would if the proxy were by itself. -/
lemma Manager.State.inquires_call {ω α : Type} {clock : State ω → Timestamp}
    {idle : State ω → State ω → Prop} {s : State ω} {c : Proxy → Call α} {n : Nat}
    {post : List Inquiry → Except Failure α → State ω → Prop}
    (h : ∀ o u, ReflTransGen idle s u →
      post ((c (s.pool.proxy n)).request.toOption.toList.map fun r => ⟨r, o, clock u⟩)
        ((c (s.pool.proxy n)).alone o (u.pool.proxy n)).1
        { u with pool := u.pool.change n fun _ =>
          ((c (s.pool.proxy n)).alone o (u.pool.proxy n)).2 }) :
    (call n c s).Inquires clock idle post := by
  cases hrequest : (c (s.pool.proxy n)).request with
  | error fault =>
    have hend := h .unanswered s .refl
    rw [hrequest, Call.alone_of_fault hrequest] at hend
    rw [State.call_of_fault hrequest]
    exact hend
  | ok r =>
    rw [State.call_of_request hrequest]
    intro o u hu
    have hend := h o u hu
    rw [hrequest, Call.alone_of_request hrequest] at hend
    exact hend

/-! ## What the process keeps about a worker -/

namespace Balancer

/-- The weight that a balancer keeps for a worker. -/
def weight? : Balancer → String → Option Nat
  | roundRobin _, _ => none
  | weighted _ weights, id => weights.get? id

/-- After a worker is forgotten the balancer has no weight for it, and keeps the others. -/
lemma weight?_forget (b : Balancer) (id id' : String) :
    (b.forget id).weight? id' = if id' = id then none else b.weight? id' := by
  cases b with
  | roundRobin n => exact (ite_self none).symm
  | weighted n weights => exact Table.get?_erase ..

end Balancer

/-- The proxy of a record is the one through which the worker is asked. -/
lemma Pool.IsKeyed.proxy_resolve {p : Pool} {r : WorkerRecord} (h : p.IsKeyed) {holding : Holding}
    (hproxy : p.lookup? r.id = holding.proxy) :
    (p.resolve r).2.proxy (p.resolve r).1 = holding.current r := by
  unfold Holding.current Pool.resolve
  rw [← hproxy]
  cases hn : p.cached.get? r.id with
  | none =>
    rw [Pool.lookup?, hn]
    exact Pool.proxy_make_self
  | some n =>
    rw [h.lookup?_eq hn]
    dsimp only
    split
    · rfl
    · exact Pool.proxy_make_self

/-! ## Stores and states -/

/-- The records in a store, by id. -/
abbrev Roster := String → Option WorkerRecord

/-- What a call comes to that fails with an error, if there is one. -/
def StoreEvent.outcome {α : Type} (failure : Option Error) (r : Except Failure α) :
    Except Failure α :=
  failure.elim r fun e => .error (.reported e)

/-- What a call that may fail makes of the records, if it fails without an effect. -/
def Roster.after (failure : Option Error) (next before : Roster) : Roster :=
  failure.elim next fun _ => before

/-- Reads a record. -/
def Roster.read (R : Roster) (id : String) : Except Failure WorkerRecord :=
  match R id with
  | some r => .ok r
  | none => .error (.reported (.workerNotFound id))

/-- A store in which every call fails without an effect or does what it should. `holds` says which
records a world holds, after which calls. The workers in `extra` are listed in any case. Nothing
that happens by itself changes a record. -/
structure WorkerStore.Serves {ω : Type} (store : WorkerStore ω) (now : ω → Timestamp)
    (holds : Roster → List StoreEvent → ω → Prop) (extra : String → Bool)
    (idle : ω → ω → Prop) : Prop where
  named : ∀ {R events w}, holds R events w → ∀ {id r}, R id = some r → r.id = id
  get : ∀ {R events w}, holds R events w → ∀ id, ∃ failure w',
    store.get id w = (StoreEvent.outcome failure (R.read id), w') ∧
      holds R (events ++ [⟨.getWorker, id, failure⟩]) w'
  remove : ∀ {R events w}, holds R events w → ∀ id, ∃ failure w',
    store.remove id w = (StoreEvent.outcome failure (.ok ()), w') ∧
      holds (.after failure (Function.update R id none) R)
        (events ++ [⟨.removeWorker, id, failure⟩]) w'
  heartbeat : ∀ {R events w}, holds R events w → ∀ {id r}, R id = some r → ∃ failure w',
    store.heartbeat r w = (StoreEvent.outcome failure (.ok (r.touch (now w))), w') ∧
      holds (.after failure (Function.update R id (some (r.touch (now w)))) R)
        (events ++ [⟨.heartbeat, id, failure⟩]) w'
  ids : ∀ {R events w}, holds R events w → ∃ failure ids w',
    store.ids w = (StoreEvent.outcome failure (.ok ids), w') ∧
      (∀ id, id ∈ ids ↔ (R id).isSome = true ∨ extra id = true) ∧
      holds R (events ++ [⟨.listWorkers, "", failure⟩]) w'
  idle : ∀ {R events w w'}, holds R events w → idle w w' → holds R events w'

namespace Manager

variable {ω : Type}

/-- Whether the given things are kept about each worker, after some calls of the store. -/
structure State.Accords (holds : Roster → List StoreEvent → ω → Prop) (F : String → Holding)
    (events : List StoreEvent) (s : State ω) : Prop where
  stored : holds (fun id => (F id).record) events s.world
  keyed : s.pool.IsKeyed
  proxy : ∀ id, s.pool.lookup? id = (F id).proxy
  weight : ∀ id, s.balancer.weight? id = (F id).weight

/-- What happens by itself. -/
def State.Idles (idle : ω → ω → Prop) (s t : State ω) : Prop :=
  ∃ w, idle s.world w ∧ t = { s with world := w }

/-- Whether a worker has been judged: the result is that of the judgement, what is kept about this
worker is what the judgement leaves, and nothing else has changed. -/
structure Judged (holds : Roster → List StoreEvent → ω → Prop) (F : String → Holding)
    (events : List StoreEvent) (id : String) (j : Judgement) (x : Except Failure Verdict)
    (t : State ω) : Prop where
  result : x = j.verdict.mapError .reported
  accords : t.Accords holds (Function.update F id j.left) (events ++ j.calls)

variable {m : Manager ω} {holds : Roster → List StoreEvent → ω → Prop} {extra : String → Bool}
  {idle : ω → ω → Prop} {F : String → Holding} {events : List StoreEvent} {s t : State ω}
  {id : String} {r : WorkerRecord}

/-- What is kept about one worker changes.

**Proof sketch.** The record, the proxy and the weight of the worker are the ones of its new
holding, and those of another worker are the ones it had. -/
lemma State.Accords.update (hs : s.Accords holds F events) {left : Holding}
    {events' : List StoreEvent}
    (hstored : holds (Function.update (fun id => (F id).record) id left.record) events' t.world)
    (hkeyed : t.pool.IsKeyed)
    (hproxy : ∀ id', t.pool.lookup? id' = if id' = id then left.proxy else s.pool.lookup? id')
    (hweight : ∀ id', t.balancer.weight? id' =
      if id' = id then left.weight else s.balancer.weight? id') :
    t.Accords holds (Function.update F id left) events' where
  stored := by
    have hrecords : (fun id' => (Function.update F id left id').record) =
        Function.update (fun id => (F id).record) id left.record :=
      funext fun id' => Function.apply_update (fun _ => Holding.record) F id left id'
    rw [hrecords]
    exact hstored
  keyed := hkeyed
  proxy id' := by
    rw [hproxy, Function.update_apply]
    split
    · rfl
    · exact hs.proxy id'
  weight id' := by
    rw [hweight, Function.update_apply]
    split
    · rfl
    · exact hs.weight id'

section Caches

variable (hs : s.Accords holds F events)
include hs

/-- The cached proxies, with the one of a certain worker named. -/
lemma State.Accords.proxy_eq (id id' : String) :
    s.pool.lookup? id' = if id' = id then (F id).proxy else s.pool.lookup? id' := by
  split
  · rename_i hsame
    rw [hsame, hs.proxy]
  · rfl

/-- The weights, with the one of a certain worker named. -/
lemma State.Accords.weight_eq (id id' : String) :
    s.balancer.weight? id' = if id' = id then (F id).weight else s.balancer.weight? id' := by
  split
  · rename_i hsame
    rw [hsame, hs.weight]
  · rfl

/-- The records, with the one of a certain worker written over itself. -/
lemma State.Accords.stored_eq (id : String) :
    holds (Function.update (fun id => (F id).record) id (F id).record) events s.world := by
  rw [Function.update_eq_self id fun id => (F id).record]
  exact hs.stored

/-- The proxy of a record has been looked for. -/
lemma State.Accords.resolve (r : WorkerRecord) (journal : List Note) :
    State.Accords holds (Function.update F r.id ((F r.id).cache ((F r.id).current r))) events
      { s with pool := (s.pool.resolve r).2, journal := journal } := by
  refine hs.update (hs.stored_eq r.id) (hs.keyed.resolve r) (fun id' => ?_) (hs.weight_eq r.id)
  split
  · rename_i hsame
    rw [hsame, (hs.keyed.resolve r).lookup?_eq (s.pool.cached_resolve r),
      hs.keyed.proxy_resolve (hs.proxy r.id)]
    rfl
  · exact hs.keyed.lookup?_resolve ‹_›

/-- The cached proxy of a worker has changed. -/
lemma State.Accords.change {n : Nat} {f : Proxy → Proxy}
    (hf : ∀ x, (f x).id = x.id ∧ (f x).addr = x.addr) (hn : s.pool.cached.get? id = some n) :
    State.Accords holds (Function.update F id ((F id).cache (f (s.pool.proxy n)))) events
      { s with pool := s.pool.change n f } :=
  hs.update (hs.stored_eq id) (hs.keyed.change hf n) (hs.keyed.lookup?_change hf hn)
    (hs.weight_eq id)

end Caches

/-- A judgement that leaves things as they are. -/
lemma State.Accords.judged {events' : List StoreEvent} (ht : t.Accords holds F events')
    {j : Judgement} {x : Except Failure Verdict} (hresult : x = j.verdict.mapError .reported)
    (hleft : j.left = F id) (hcalls : events' = events ++ j.calls) :
    Judged holds F events id j x t where
  result := hresult
  accords := by
    rw [hleft, Function.update_eq_self, ← hcalls]
    exact ht

/-- Whatever happens by itself, the same things are kept. -/
lemma State.Accords.idles (hserves : m.workers.Serves m.now holds extra idle)
    (hs : s.Accords holds F events) (hidle : ReflTransGen (State.Idles idle) s t) :
    t.Accords holds F events ∧ t.pool = s.pool := by
  induction hidle with
  | refl => exact ⟨hs, rfl⟩
  | tail _ hstep ih =>
    obtain ⟨w, hw, rfl⟩ := hstep
    exact ⟨⟨hserves.idle ih.1.stored hw, ih.1.keyed, ih.1.proxy, ih.1.weight⟩, ih.2⟩

/-! ## One worker -/

section Serves

variable (hserves : m.workers.Serves m.now holds extra idle) (hs : s.Accords holds F events)
include hserves hs

/-- An eviction.

**Proof sketch.** If the store fails, the failure is the verdict and nothing is dropped. If not,
record, proxy and weight go together. -/
lemma exists_evict (id : String) (cause : State ω → EvictionCause) (verdict : Verdict) :
    ∃ removal x t,
      (do m.evict id cause; return verdict : Operation (State ω) Verdict) s = .finished x t ∧
      ∀ c : Circumstances, c.removal = removal →
        Judged holds F events id ((F id).evict id c verdict) x t := by
  obtain ⟨removal, w, hremove, hholds⟩ := hserves.remove hs.stored id
  refine ⟨removal, ?_⟩
  show ∃ x t, ((((query (m.workers.remove id) >>= _) s).andThen _).andThen _) = .finished x t ∧ _
  cases removal with
  | some e =>
    rw [State.query_bind_error hremove]
    have ht : State.Accords holds F (events ++ [⟨.removeWorker, id, some e⟩])
        { s with world := w } := ⟨hholds, hs.keyed, hs.proxy, hs.weight⟩
    refine ⟨_, _, rfl, fun c hc => ?_⟩
    rw [Holding.evict, hc]
    exact ht.judged rfl rfl rfl
  | none =>
    rw [State.query_bind_ok hremove]
    refine ⟨_, _, rfl, fun c hc => ?_⟩
    rw [Holding.evict, hc]
    exact ⟨rfl, hs.update hholds (hs.keyed.drop id) (fun id' => Pool.lookup?_drop ..)
      fun id' => Balancer.weight?_forget ..⟩

/-- A worker that answered is kept.

**Proof sketch.** The store writes the record with the time of the sweep, or fails and leaves all
records as they are; a failure is the verdict, unless it is that there is no such worker. -/
lemma exists_renew (hr : (F id).record = some r) :
    ∃ renewal x t,
      (do m.renew r; return .kept : Operation (State ω) Verdict) s = .finished x t ∧
      ∀ c : Circumstances, c.renewal = renewal → c.time = m.now s.world →
        Judged holds F events id ((F id).renew id r c) x t := by
  obtain ⟨renewal, w, hheartbeat, hholds⟩ := hserves.heartbeat hs.stored hr
  refine ⟨renewal, ?_⟩
  show ∃ x t, ((((query (m.workers.heartbeat r) s).andThen _).andThen _).andThen _) =
    .finished x t ∧ _
  rw [State.query_eq hheartbeat]
  cases renewal with
  | none =>
    refine ⟨_, _, rfl, fun c hc htime => ?_⟩
    rw [Holding.renew, hc, htime]
    exact ⟨rfl, hs.update hholds hs.keyed (hs.proxy_eq id) (hs.weight_eq id)⟩
  | some e =>
    have ht : State.Accords holds F (events ++ [⟨.heartbeat, id, some e⟩])
        { s with world := w } := ⟨hholds, hs.keyed, hs.proxy, hs.weight⟩
    cases e with
    | workerNotFound id' =>
      refine ⟨_, _, rfl, fun c hc _ => ?_⟩
      rw [Holding.renew, hc]
      exact ht.judged rfl rfl rfl
    | _ =>
      refine ⟨_, _, rfl, fun c hc _ => ?_⟩
      rw [Holding.renew, hc]
      exact ht.judged rfl rfl rfl

/-- A health check has ended, and the worker is judged by it.

**Proof sketch.** After a check that succeeded, the record is renewed. After one that failed, the
errors of the proxy are compared with the bound, and the worker is removed or kept; the state agrees
with the holdings either way. -/
lemma exists_conclude (hr : (F id).record = some r) (n : Nat)
    (outcome : Except Error WorkerStatus) :
    ∃ removal renewal x t, m.conclude id r n outcome s = .finished x t ∧
      ∀ c : Circumstances, c.removal = removal → c.renewal = renewal → c.time = m.now s.world →
        Judged holds F events id ((F id).conclude m.settings id r c
          (s.pool.proxy n).errorCount.toNat (outcome.mapError .reported)) x t := by
  cases outcome with
  | ok status =>
    obtain ⟨renewal, x, t, hrenew, hjudged⟩ := exists_renew (s := { s with
      journal := .checked (s.pool.contact n) true :: s.journal }) hserves
      ⟨hs.stored, hs.keyed, hs.proxy, hs.weight⟩ hr
    exact ⟨none, renewal, x, t, hrenew, fun c _ => hjudged c⟩
  | error e =>
    obtain ⟨s', hs'⟩ : ∃ s' : State ω, s' = { s with
        journal := .checked (s.pool.contact n) false :: s.journal
        metrics := { s.metrics with
          healthCheckFailures := s.metrics.healthCheckFailures + 1 } } := ⟨_, rfl⟩
    -- neither the note nor the count is kept about a worker
    have haccords : s'.Accords holds F events := by
      rw [hs']
      exact ⟨hs.stored, hs.keyed, hs.proxy, hs.weight⟩
    have hconclude : m.conclude id r n (.error e) s =
        (if m.settings.maxErrorCount ≤ (s.pool.proxy n).errorCount.toNat then do
            m.evict id fun s => .unhealthy (s.pool.contact n)
            return .evictedUnhealthy
          else return .kept : Operation (State ω) Verdict) s' := by
      rw [hs']
      rfl
    rw [hconclude]
    simp only [Except.mapError, Holding.conclude]
    by_cases hthreshold : m.settings.maxErrorCount ≤ (s.pool.proxy n).errorCount.toNat
    · obtain ⟨removal, x, t, hevict, hjudged⟩ := exists_evict hserves haccords id
        (fun s => .unhealthy (s.pool.contact n)) .evictedUnhealthy
      rw [if_pos hthreshold]
      refine ⟨removal, none, x, t, hevict, fun c hc _ _ => ?_⟩
      rw [if_pos hthreshold]
      exact hjudged c hc
    · rw [if_neg hthreshold]
      refine ⟨none, none, _, _, rfl, fun c _ _ _ => ?_⟩
      rw [if_neg hthreshold]
      exact haccords.judged rfl rfl (List.append_nil events).symm

omit hs in
/-- The proxy through which a worker is asked has taken notice of the outcome of a health check, and
the worker is judged by it.

**Proof sketch.** The proxy in the pool is the one of the worker that is judged, so the change of
the pool by the outcome is the change of its holding. From there `exists_conclude` gives the
verdict, and the circumstances of the check are put together from its outcome and the answers of the
store. -/
lemma exists_checked {u : State ω} {n : Nat} (hr : (F id).record = some r)
    (hu : u.Accords holds (Function.update F id ((F id).cache ((F id).current r))) events)
    (hn : u.pool.cached.get? id = some n) (o : Http.Outcome) :
    ∃ outcome c x t, (((F id).current r).checkStatus.alone o ((F id).current r)).1 =
        outcome.mapError .reported ∧
      m.conclude id r n outcome { u with pool := u.pool.change n fun _ =>
        (((F id).current r).checkStatus.alone o ((F id).current r)).2 } = .finished x t ∧
      c.reading = none ∧ c.response = o ∧ c.time = m.now u.world ∧
      Judged holds F events id ((F id).check m.settings id r c) x t := by
  obtain ⟨p, hp⟩ : ∃ p, p = (F id).current r := ⟨_, rfl⟩
  rw [← hp] at hu ⊢
  have hproxy : u.pool.proxy n = p := by
    have hlookup := hu.proxy id
    rw [hu.keyed.lookup?_eq hn, Function.update_self] at hlookup
    exact Option.some.inj hlookup
  obtain ⟨body, hbody⟩ := p.checkStatus.exists_alone_eq o p
  obtain ⟨outcome, hfinish⟩ := finish_checkStatus p p body
  rw [hfinish] at hbody
  have hconst : (u.pool.change n fun _ => p.judged outcome.toOption) =
      u.pool.change n (Proxy.judged outcome.toOption) := by
    rw [← hproxy]
    exact Pool.change_const n _
  have hself : (u.pool.change n (Proxy.judged outcome.toOption)).proxy n =
      p.judged outcome.toOption := by
    rw [← hproxy]
    exact Pool.proxy_change_self (hu.keyed id n hn).1 _
  have hchanged := hu.change (Proxy.judged_name outcome.toOption) hn
  rw [Function.update_idem, Function.update_self, hproxy, Holding.cache_cache] at hchanged
  obtain ⟨removal, renewal, x, t, hconclude, hjudged⟩ := exists_conclude (r := r) hserves hchanged
    (by rw [Function.update_self]; exact hr) n outcome
  obtain ⟨c, hc⟩ : ∃ c : Circumstances, c = ⟨none, removal, renewal, o, m.now u.world⟩ := ⟨_, rfl⟩
  refine ⟨outcome, c, x, t, congrArg Prod.fst hbody, ?_, by rw [hc], by rw [hc], by rw [hc], ?_⟩
  · rw [hbody, ← hconclude, ← hconst]
  · have hend := hjudged c (by rw [hc]) (by rw [hc]) (by rw [hc])
    rw [Function.update_self, hself] at hend
    have hresponse : c.response = o := by rw [hc]
    simp only [Holding.check, ← hp, hresponse, hbody]
    exact ⟨hend.result, by simpa only [Function.update_idem] using hend.accords⟩

/-- A health check, from the request to the verdict.

**Proof sketch.** The proxy is resolved, the request is made through it, and nothing has changed
while it was on its way. So the outcome is put to the same proxy, as `exists_checked` says. -/
lemma inquires_probe (hr : (F id).record = some r) :
    (m.probe id r s).Inquires (fun s => m.now s.world) (State.Idles idle) fun log x t =>
      ∃ c : Circumstances, c.reading = none ∧
        log = ((F id).check m.settings id r c).inquiries c ∧
        Judged holds F events id ((F id).check m.settings id r c) x t := by
  obtain rfl := hserves.named hs.stored hr
  obtain ⟨n, hn⟩ : ∃ n, n = (s.pool.resolve r).1 := ⟨_, rfl⟩
  obtain ⟨s', hs'⟩ : ∃ s' : State ω, s' = { s with
      pool := (s.pool.resolve r).2
      journal := .examined r.id r ((s.pool.resolve r).2.contact n) :: s.journal } := ⟨_, rfl⟩
  have hprobe : m.probe r.id r s =
      ((State.call n Proxy.checkStatus).attempt >>= m.conclude r.id r n) s' := by
    rw [hs', hn]
    rfl
  have hcached : s'.pool.cached.get? r.id = some n := by
    rw [hs', hn]
    exact s.pool.cached_resolve r
  have hproxy : s'.pool.proxy n = (F r.id).current r := by
    rw [hs', hn]
    exact hs.keyed.proxy_resolve (hs.proxy r.id)
  have hresolved :
      s'.Accords holds (Function.update F r.id ((F r.id).cache ((F r.id).current r))) events := by
    rw [hs']
    exact hs.resolve r _
  rw [hprobe]
  refine Operation.inquires_bind (Operation.inquires_attempt
    (State.inquires_call fun o u hu => ?_) fun log x t hx => hx) fun log x t hx => hx
  -- while the request was on its way, nothing has changed
  obtain ⟨hu, hpool⟩ := hresolved.idles hserves hu
  obtain ⟨outcome, c, x, t, houtcome, hconclude, hreading, hresponse, htime, hjudged⟩ :=
    exists_checked hserves hr hu (by rw [hpool]; exact hcached) o
  rw [hpool] at hconclude ⊢
  rw [hproxy]
  refine ⟨outcome, houtcome, outcome, rfl, ?_⟩
  rw [hconclude]
  refine ⟨c, hreading, ?_, hjudged⟩
  rw [List.append_nil, Judgement.inquiries, hresponse, htime]
  rfl

/-- A worker whose record was read is judged. -/
lemma inquires_appraise (hr : (F id).record = some r) (now : Timestamp) :
    ((if r.isStale now m.settings.staleThreshold then do
          m.evict id fun _ => .stale
          return .evictedStale
        else if m.settings.healthCheckEnabled then m.probe id r
        else return .kept : Operation (State ω) Verdict) s).Inquires
      (fun s => m.now s.world) (State.Idles idle) fun log x t =>
        ∃ c : Circumstances, c.reading = none ∧
          log = ((F id).appraise m.settings now id r c).inquiries c ∧
          Judged holds F events id ((F id).appraise m.settings now id r c) x t := by
  by_cases hstale : r.isStale now m.settings.staleThreshold
  · obtain ⟨removal, x, t, hevict, hjudged⟩ :=
      exists_evict hserves hs id (fun _ => .stale) .evictedStale
    simp only [Holding.appraise, if_pos hstale]
    rw [hevict]
    refine ⟨{ removal }, rfl, ?_, hjudged { removal } rfl⟩
    rw [Judgement.inquiries, Holding.request?_evict]
    rfl
  · by_cases henabled : m.settings.healthCheckEnabled
    · simp only [Holding.appraise, if_neg hstale, if_pos henabled]
      exact inquires_probe hserves hs hr
    · simp only [Holding.appraise, if_neg hstale, if_neg henabled]
      exact ⟨{}, rfl, rfl, hs.judged rfl rfl (List.append_nil events).symm⟩

end Serves

variable (hserves : m.workers.Serves m.now holds extra idle) (hs : s.Accords holds F events)
include hserves hs

/-- **One worker is judged, and nothing about the others changes.**

**Proof sketch.** The record is read. A failing store and a missing record end the judgement; a
record that is there is appraised, and the reading is put in front of the calls of the appraisal. -/
theorem inquires_judge (now : Timestamp) (id : String) :
    (m.judge now id s).Inquires (fun s => m.now s.world) (State.Idles idle) fun log x t =>
      ∃ c, log = ((F id).judge m.settings now id c).inquiries c ∧
        Judged holds F events id ((F id).judge m.settings now id c) x t := by
  obtain ⟨reading, w, hget, hholds⟩ := hserves.get hs.stored id
  have ht : State.Accords holds F (events ++ [⟨.getWorker, id, reading⟩]) { s with world := w } :=
    ⟨hholds, hs.keyed, hs.proxy, hs.weight⟩
  unfold judge
  rw [Operation.bind_apply, find?_eq, hget]
  cases reading with
  | some e => cases e <;> exact ⟨{ reading := some _ }, rfl, ht.judged rfl rfl rfl⟩
  | none =>
    cases hr : (F id).record with
    | none =>
      have hread : Roster.read (fun id => (F id).record) id =
          .error (.reported (.workerNotFound id)) := by
        simp only [Roster.read, hr]
      rw [hread]
      have hmissing : (F id).judge m.settings now id {} =
          ⟨.ok .missing, F id, [⟨.getWorker, id, none⟩], none⟩ := by
        simp only [Holding.judge, hr]
      refine ⟨{}, ?_⟩
      rw [hmissing]
      exact ⟨rfl, ht.judged rfl rfl rfl⟩
    | some r =>
      have hread : Roster.read (fun id => (F id).record) id = .ok r := by
        simp only [Roster.read, hr]
      rw [hread]
      -- the reading comes before the calls of the appraisal
      refine (inquires_appraise hserves ht hr now).mono fun log x t => ?_
      rintro ⟨c, hreading, hlog, hjudged⟩
      have hjudge : (F id).judge m.settings now id c =
          { (F id).appraise m.settings now id r c with
            calls := ⟨.getWorker, id, none⟩ ::
              ((F id).appraise m.settings now id r c).calls } := by
        simp only [Holding.judge, hreading, hr]
      refine ⟨c, ?_, ?_⟩
      · rw [hjudge, hlog]
        rfl
      · rw [hjudge]
        exact ⟨hjudged.result, by simpa using hjudged.accords⟩

end Manager

/-! ## All workers -/

namespace Manager

variable {ω : Type} {m : Manager ω} {holds : Roster → List StoreEvent → ω → Prop}
  {extra : String → Bool} {idle : ω → ω → Prop} {F : String → Holding}
  {events : List StoreEvent} {s : State ω}

/-- The judgements on the workers, each by itself and in its own circumstances. -/
def judgements (m : Manager ω) (now : Timestamp) (F : String → Holding)
    (own : String → Circumstances) (id : String) : Judgement :=
  (F id).judge m.settings now id (own id)

/-- What is kept about each worker after judgements on the listed ones. -/
def settled (J : String → Judgement) (ids : List String) (F : String → Holding) (id : String) :
    Holding :=
  if id ∈ ids then (J id).left else F id

/-- Whether the listed workers have been judged: the report counts the verdicts beside earlier ones,
the inquiries and the calls are those of the judgements in the order of the list, and what is kept
about each listed worker is what its judgement leaves. -/
structure JudgedAll (m : Manager ω) (holds : Roster → List StoreEvent → ω → Prop) (now : Timestamp)
    (F : String → Holding) (events : List StoreEvent) (earlier : List (Except Error Verdict))
    (ids : List String) (own : String → Circumstances) (log : List Inquiry) (report : SweepReport)
    (t : State ω) : Prop where
  counts : report.Counts (earlier ++ ids.map fun id => (m.judgements now F own id).verdict)
  inquiries : log = ids.flatMap fun id => (m.judgements now F own id).inquiries (own id)
  accords : t.Accords holds (settled (m.judgements now F own) ids F)
    (events ++ ids.flatMap fun id => (m.judgements now F own id).calls)

section Cons

variable {now : Timestamp} {id id' : String} {ids : List String} {c : Circumstances}
  {own : String → Circumstances} {left : Holding}

/-- The judgement on a worker has nothing to do with what becomes of another one. -/
lemma judgements_update (h : id' ≠ id) :
    m.judgements now (Function.update F id left) own id' =
      m.judgements now F (Function.update own id c) id' := by
  unfold judgements
  rw [Function.update_of_ne h, Function.update_of_ne h]

/-- What is settled after the first worker and the others is what is settled after all of them. -/
lemma settled_update (hleft : left = ((F id).judge m.settings now id c).left) (hid : id ∉ ids) :
    settled (m.judgements now (Function.update F id left) own) ids (Function.update F id left) =
      settled (m.judgements now F (Function.update own id c)) (id :: ids) F := by
  funext id'
  unfold settled
  by_cases hsame : id' = id
  · subst hsame
    rw [if_neg hid, if_pos (List.mem_cons_self ..), Function.update_self, judgements,
      Function.update_self, hleft]
  · rw [judgements_update (c := c) hsame, Function.update_of_ne hsame]
    simp [hsame]

/-- One worker more has been judged before the others.

**Proof sketch.** The id does not occur among the others, so that their circumstances, judgements
and holdings are the same with and without those of the one that is judged first. -/
lemma JudgedAll.cons {earlier : List (Except Error Verdict)} {log : List Inquiry}
    {report : SweepReport} {t : State ω} (hid : id ∉ ids)
    (h : JudgedAll m holds now
      (Function.update F id ((F id).judge m.settings now id c).left)
      (events ++ ((F id).judge m.settings now id c).calls)
      (earlier ++ [((F id).judge m.settings now id c).verdict]) ids own log report t) :
    JudgedAll m holds now F events earlier (id :: ids) (Function.update own id c)
      (((F id).judge m.settings now id c).inquiries c ++ log) report t := by
  obtain ⟨hcounts, hinquiries, haccords⟩ := h
  have hne : ∀ id' ∈ ids, id' ≠ id := fun id' hid' h => hid (h ▸ hid')
  have hself : m.judgements now F (Function.update own id c) id =
      (F id).judge m.settings now id c := by
    rw [judgements, Function.update_self]
  rw [settled_update rfl hid, List.append_assoc] at haccords
  rw [List.append_assoc, List.singleton_append] at hcounts
  refine ⟨?_, ?_, ?_⟩
  · rw [List.map_cons, hself]
    rwa [List.map_congr_left fun id' hid' => by rw [judgements_update (hne id' hid')]] at hcounts
  · rw [List.flatMap_cons, hself, Function.update_self, hinquiries]
    congr 1
    exact List.flatMap_congr fun id' hid' => by
      rw [judgements_update (hne id' hid'), Function.update_of_ne (hne id' hid')]
  · rw [List.flatMap_cons, hself]
    rwa [List.flatMap_congr fun id' hid' => by rw [judgements_update (hne id' hid')]] at haccords

end Cons

section Serves

variable (hserves : m.workers.Serves m.now holds extra idle)
include hserves

/-- **All listed workers are judged, each by itself.**

**Proof sketch.** Induction on the ids. Each is judged on the state that the earlier ones left,
which differs from the first in their holdings alone, and its verdict is entered into the report. -/
theorem inquires_judgeAll (now : Timestamp) {ids : List String} (hids : ids.Nodup)
    (hs : s.Accords holds F events) {report : SweepReport}
    {earlier : List (Except Error Verdict)} (hreport : report.Counts earlier) :
    (m.judgeAll now report ids s).Inquires (fun s => m.now s.world) (State.Idles idle)
      fun log x t => ∃ own report', x = .ok report' ∧
        JudgedAll m holds now F events earlier ids own log report' t := by
  induction ids generalizing s F events report earlier with
  | nil =>
    have hsettled : ∀ J : String → Judgement, settled J [] F = F := fun J => by
      funext id
      simp [settled]
    refine ⟨fun _ => {}, report, rfl, ⟨?_, rfl, ?_⟩⟩
    · simpa using hreport
    · simpa [hsettled] using hs
  | cons id ids ih =>
    obtain ⟨hid, hids⟩ := List.nodup_cons.mp hids
    refine Operation.inquires_bind (Operation.inquires_attempt
      (q := fun log x t => ∃ c, x = .ok ((F id).judge m.settings now id c).verdict ∧
        log = ((F id).judge m.settings now id c).inquiries c ∧
        t.Accords holds (Function.update F id ((F id).judge m.settings now id c).left)
          (events ++ ((F id).judge m.settings now id c).calls))
      (inquires_judge hserves hs now id) ?_) ?_
    · rintro log x t ⟨c, hlog, hjudged⟩
      exact ⟨_, hjudged.result, c, rfl, hlog, hjudged.accords⟩
    · rintro _ _ t ⟨c, rfl, rfl, ht⟩
      refine ⟨_, rfl, (ih hids ht (hreport.enter _)).mono ?_⟩
      rintro log x u ⟨own, report', rfl, hrest⟩
      exact ⟨_, report', rfl, hrest.cons hid⟩

omit hserves in
/-- Some workers are forgotten. -/
lemma State.Accords.foldl_forget (ids : List String) (hs : s.Accords holds F events) :
    State.Accords holds (fun id => if id ∈ ids then (F id).forget else F id) events
      (ids.foldl State.forget s) := by
  induction ids generalizing s F with
  | nil => simpa using hs
  | cons id ids ih =>
    have hforget : State.Accords holds (Function.update F id (F id).forget) events (s.forget id) :=
      hs.update (hs.stored_eq id) (hs.keyed.drop id) (fun id' => Pool.lookup?_drop ..)
        fun id' => Balancer.weight?_forget ..
    have hsame : (fun id' => if id' ∈ ids then (Function.update F id (F id).forget id').forget
          else Function.update F id (F id).forget id') =
        fun id' => if id' ∈ id :: ids then (F id').forget else F id' := by
      funext id'
      by_cases hid : id' = id
      · subst hid
        simp [Holding.forget]
      · simp [hid]
    rw [← hsame]
    exact ih hforget

/-- What is kept about workers that are not listed is dropped, unless the listing fails.

**Proof sketch.** If the listing fails, nothing changes. If not, the ids that are forgotten are
those with a proxy but neither a record nor a dangling entry, which is what `Holding.pruned` says of
each of them. -/
lemma exists_prune (hs : s.Accords holds F events) :
    ∃ last t, m.prune.attempt s = .finished (.ok (last.elim (.ok ()) .error)) t ∧
      t.Accords holds (fun id => (F id).pruned (extra id) last)
        (events ++ [⟨.listWorkers, "", last⟩]) := by
  obtain ⟨last, live, w, hids, hlive, hholds⟩ := hserves.ids hs.stored
  have ht : State.Accords holds F (events ++ [⟨.listWorkers, "", last⟩]) { s with world := w } :=
    ⟨hholds, hs.keyed, hs.proxy, hs.weight⟩
  refine ⟨last, ?_⟩
  rw [Operation.attempt, prune]
  cases last with
  | some e =>
    rw [State.query_bind_error hids]
    have hsame : (fun id => (F id).pruned (extra id) (some e)) = F := by
      funext id
      simp [Holding.pruned]
    exact ⟨_, rfl, hsame.symm ▸ ht⟩
  | none =>
    rw [State.query_bind_ok hids]
    refine ⟨_, rfl, ?_⟩
    have hpruned : (fun id => (F id).pruned (extra id) none) = fun id =>
        if id ∈ s.pool.cached.keys.filter fun id => !live.contains id then (F id).forget
        else F id := by
      funext id
      have hcached : (s.pool.cached.get? id).isSome = (F id).proxy.isSome := by
        rw [← hs.proxy, hs.keyed.isSome_lookup?]
      have hdead : id ∈ s.pool.cached.keys.filter (fun id => !live.contains id) ↔
          ((F id).proxy.isSome && !(F id).record.isSome && !extra id) = true := by
        simp [List.mem_filter, Table.mem_keys_iff, hcached, hlive id, and_assoc]
      simp only [hdead, Holding.pruned, Option.isNone_none, Bool.true_and]
    rw [hpruned]
    exact ht.foldl_forget _

/-- The workers that are listed are those with a record and those that are listed in any case. -/
lemma State.Accords.listed {ids : List String} {w : ω} (hs : s.Accords holds F events)
    (hlisted : m.workers.ids s.world = (.ok ids, w)) :
    State.Accords holds F (events ++ [⟨.listWorkers, "", none⟩]) { s with world := w } ∧
      ∀ id, id ∈ ids ↔ (F id).record.isSome = true ∨ extra id = true := by
  obtain ⟨failure, live, w', hids, hlive, hholds⟩ := hserves.ids hs.stored
  obtain ⟨hsame, rfl⟩ := Prod.mk.inj (hids.symm.trans hlisted)
  cases failure with
  | some e => exact absurd hsame (by simp [StoreEvent.outcome])
  | none =>
    obtain rfl : live = ids := Except.ok.inj hsame
    exact ⟨⟨hholds, hs.keyed, hs.proxy, hs.weight⟩, hlive⟩

/-- **A sweep by itself** judges the listed workers and then forgets those that are not listed any
more, unless they cannot be listed. -/
theorem inquires_sweep {ids : List String} {w : ω} (hs : s.Accords holds F events)
    (hlisted : m.workers.ids s.world = (.ok ids, w)) (hids : ids.Nodup) :
    (m.sweep s).Inquires (fun s => m.now s.world) (State.Idles idle) fun log x t =>
      ∃ report own last, x = .ok report ∧
        report.Counts (ids.map fun id => (m.judgements (m.now w) F own id).verdict) ∧
        log = ids.flatMap (fun id => (m.judgements (m.now w) F own id).inquiries (own id)) ∧
        t.Accords holds
          (fun id => (settled (m.judgements (m.now w) F own) ids F id).pruned (extra id) last)
          (events ++ [⟨.listWorkers, "", none⟩] ++
            ids.flatMap (fun id => (m.judgements (m.now w) F own id).calls) ++
            [⟨.listWorkers, "", last⟩]) := by
  show ((query m.workers.ids >>= _) s).Inquires _ _ _
  rw [State.query_bind_ok hlisted]
  refine Operation.inquires_bind (x := m.judgeAll (m.now w) {} ids)
    (inquires_judgeAll hserves (m.now w) hids (hs.listed hserves hlisted).1
      SweepReport.counts_nil) ?_
  rintro log _ t ⟨own, report, rfl, hcounts, hinquiries, haccords⟩
  refine ⟨report, rfl, ?_⟩
  obtain ⟨last, u, hprune, hu⟩ := exists_prune hserves haccords
  rw [Operation.bind_apply, hprune]
  exact ⟨report, own, last, rfl, hcounts, (List.append_nil log).trans hinquiries, hu⟩

end Serves

end Manager

end ConversionScheduler
