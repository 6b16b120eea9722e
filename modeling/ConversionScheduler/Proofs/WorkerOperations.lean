import ConversionScheduler.Proofs.Conduct
/-!
# What the operations of the manager do, step by step

The manager touches the world only through the calls of the store of the workers, and what it keeps
itself only in a few ways. If all of these observe a conduct, for instance by leaving something else
alone, then each operation does so from its start to its first pause, between its pauses, and after
the last of them, whatever becomes of the state in the meantime. The choice of the balancer stands
apart: only the selection of a worker makes one.

What counts as a step is a matter of what can be seen in between. A worker that showed that it is
there is given a proxy and a weight, and one that has gone loses both, and nobody can see the one
without the other.

## Main definitions

* `Manager.Upholds` — a manager all of whose steps observe a conduct, maybe except for choices.
* `Manager.Observes` — the same for all changes that the steps consist of.
* `Manager.Chooses` — the choices do so as well.
* `Conduct.onWorld` — a conduct of the world, as one of a manager's state.
* `WorkerStore.Observes` — a store all of whose calls observe a conduct.

## Main results

* `Manager.observes_addWorker` and so on — the operations of the manager.
* `Scheduler.observes_execute`, `Scheduler.observes_remoteStatus` — the requests to workers.
* `Scheduler.observes_schedule`, `Scheduler.observes_status` — the operations on tasks.
* `WorkerStore.Observes.onWorld` — a manager does to the world what the calls of its store do.
-/

namespace ConversionScheduler

namespace Manager

open Operation

variable {ω α β : Type} {e : Conduct (State ω)} {m : Manager ω}

/-- Whether all changes that a manager's steps consist of observe a conduct, each by itself, except
for the choices of its balancer. -/
structure Observes (m : Manager ω) (e : Conduct (State ω)) : Prop where
  perform : ∀ (call : WorkerCall) (s : State ω),
    e.leads s { s with world := (call.perform m.workers s.world).2 }
  close : ∀ s : State ω, e.leads s { s with world := (m.workers.close s.world).2 }
  pool : ∀ (s : State ω) (pool : Pool), e.leads s { s with pool := pool }
  observe : ∀ (s : State ω) (id : String) (weight : Nat),
    e.leads s { s with balancer := s.balancer.observe id weight }
  forget : ∀ (s : State ω) (id : String), e.leads s { s with balancer := s.balancer.forget id }
  metrics : ∀ (s : State ω) (metrics : Metrics), e.leads s { s with metrics := metrics }
  journal : ∀ (s : State ω) (journal : List Note), e.leads s { s with journal := journal }
  stop : ∀ s : State ω, e.leads s { s with evictionLoop := none }

/-- Whether the choices of the balancer observe a conduct. -/
def Chooses (e : Conduct (State ω)) : Prop :=
  ∀ (s : State ω) (ids : List String), e.leads s { s with balancer := (s.balancer.select ids).2 }

/-- Whether a call leaves the proxy its worker and its address. -/
def IsDiscreet (c : Call α) : Prop :=
  ∀ body q, (c.finish body q).2.id = q.id ∧ (c.finish body q).2.addr = q.addr

/-- A service leaves the proxy its worker and its address. -/
lemma isDiscreet_of_isService {c : Call α} (hc : IsService c) : IsDiscreet c := by
  intro body q
  obtain ⟨e, h⟩ | ⟨a, h⟩ := hc body q <;> rw [h] <;> exact ⟨rfl, rfl⟩

/-- So does a health check. -/
lemma isDiscreet_checkStatus (p : Proxy) : IsDiscreet p.checkStatus := by
  intro body q
  obtain ⟨outcome, h⟩ := finish_checkStatus p q body
  rw [h]
  exact q.judged_name _

/-- Whether all steps that a manager makes observe a conduct, except for the choices of its
balancer. -/
structure Upholds (m : Manager ω) (e : Conduct (State ω)) : Prop where
  perform : ∀ (call : WorkerCall) (s : State ω),
    e.leads s { s with world := (call.perform m.workers s.world).2 }
  close : ∀ s : State ω, e.leads s { s with world := (m.workers.close s.world).2 }
  resolve : ∀ (s : State ω) (r : WorkerRecord), e.leads s { s with pool := (s.pool.resolve r).2 }
  change : ∀ (s : State ω) (n : Nat) {f : Proxy → Proxy},
    (∀ p, (f p).id = p.id ∧ (f p).addr = p.addr) →
      e.leads s { s with pool := s.pool.change n f }
  /-- A worker that showed that it is there has a proxy and a weight. -/
  greet : ∀ (s : State ω) (r : WorkerRecord), e.leads s { s with
    pool := (s.pool.resolve r).2.change (s.pool.resolve r).1 Proxy.resetErrors
    balancer := s.balancer.observe r.id r.weight }
  /-- A worker that has gone has neither. -/
  forget : ∀ (s : State ω) (id : String), e.leads s (s.forget id)
  metrics : ∀ (s : State ω) (metrics : Metrics), e.leads s { s with metrics := metrics }
  journal : ∀ (s : State ω) (journal : List Note), e.leads s { s with journal := journal }
  stop : ∀ s : State ω, e.leads s { s with evictionLoop := none }

/-- If it does not matter how the pool changes, it does not matter whether a step changes something
else as well. -/
lemma Observes.upholds (h : m.Observes e) : m.Upholds e where
  perform := h.perform
  close := h.close
  resolve s _ := h.pool s _
  change s _ _ _ := h.pool s _
  greet s r := e.trans (h.observe s r.id r.weight) (h.pool _ _)
  forget s id := e.trans (h.forget s id) (h.pool _ (s.pool.drop id))
  metrics := h.metrics
  journal := h.journal
  stop := h.stop

section Operations

variable (h : m.Upholds e)

include h

/-! ## The steps of an operation -/

namespace State

/-- Resolving a record is one of the steps. -/
lemma observes_resolve (r : WorkerRecord) : Operation.Observes e (resolve r) :=
  observes_step fun s => h.resolve s r

/-- Counting is a change of the counters. -/
lemma observes_count (f : Metrics → Metrics) : Operation.Observes e (count f) :=
  observes_update fun s => h.metrics s _

/-- A note is a change of the journal. -/
lemma observes_note (f : State ω → Note) : Operation.Observes e (note f) :=
  observes_update fun s => h.journal s _

/-- A request to a worker changes its proxy when the outcome is there, and nothing before that. -/
lemma observes_call (n : Nat) {c : Proxy → Call α} (hc : ∀ p, IsDiscreet (c p)) :
    Operation.Observes e (call n c) := by
  have hend : ∀ (p : Proxy) (s : State ω) body, e.leads s
      { s with pool := s.pool.change n fun _ => ((c p).finish body (s.pool.proxy n)).2 } := by
    intro p s body
    rw [Pool.change_const n fun q => ((c p).finish body q).2]
    exact h.change s n fun q => hc p body q
  intro s
  unfold call Call.run
  cases (c (s.pool.proxy n)).request with
  | error fault => exact hend _ s _
  | ok r => exact ((observes_send r).bind fun o => observes_step fun t => hend _ t _) s

/-- A worker that showed that it is there is taken notice of. -/
lemma observes_greet (r : WorkerRecord) (f : Nat → State ω → Note) (a : Nat → α) :
    Operation.Observes e (do
      let n ← resolve r
      change n Proxy.resetErrors
      observe r
      note (f n)
      return a n) :=
  fun s => e.trans (h.greet s r) (h.journal _ _)

end State

open State

/-! ## The calls of the store -/

omit h in
/-- A query observes a conduct if it does so when something is made of its result. -/
lemma observes_map {f : α → β} {q : Query ω α}
    (hq : ∀ s : State ω, e.leads s { s with world := ((f <$> q) s.world).2 }) :
    Operation.Observes e (query q) := by
  refine observes_step fun s => ?_
  have hs := hq s
  rwa [Query.map_apply] at hs

/-- Writing a new record is one of the calls of the store. -/
lemma observes_add (r : WorkerRecord) : Operation.Observes e (query (m.workers.add r)) :=
  observes_map (h.perform (.add r))

/-- Removing a record is one of the calls. -/
lemma observes_remove (id : String) : Operation.Observes e (query (m.workers.remove id)) :=
  observes_map (h.perform (.remove id))

/-- Reading a record is one of the calls. -/
lemma observes_get (id : String) : Operation.Observes e (query (m.workers.get id)) :=
  observes_map (h.perform (.get id))

/-- Listing the ids is one of the calls. -/
lemma observes_ids : Operation.Observes e (query m.workers.ids) :=
  observes_map (h.perform .ids)

/-- Writing a sign of life is one of the calls. -/
lemma observes_renewal (r : WorkerRecord) :
    Operation.Observes e (query (m.workers.heartbeat r)) :=
  observes_map (h.perform (.heartbeat r))

/-! ## Membership and access -/

/-- A registration writes a record twice, and then the worker is greeted. -/
lemma observes_addWorker (q : Registration) : Operation.Observes e (m.addWorker q) :=
  (observes_read _).bind fun _ => (observes_add h _).bind fun _ =>
    (observes_renewal h _).bind fun r =>
      observes_greet h r (fun n s => .registered q (s.pool.contact n)) fun n => n

/-- A removal from the store is followed by forgetting the worker. -/
lemma observes_withdraw (id : String) : Operation.Observes e (m.withdraw id) :=
  (observes_remove h id).bind fun _ => observes_update fun s => h.forget s id

/-- The removal of a worker is noted. -/
lemma observes_removeWorker (id : String) : Operation.Observes e (m.removeWorker id) :=
  (observes_withdraw h id).bind fun _ => observes_note h _

/-- A look at a record takes one call of the store. -/
lemma observes_find? (id : String) : Operation.Observes e (m.find? id) := by
  refine (observes_get h id).attempt.bind fun r => ?_
  split
  · exact observes_pure _
  · exact observes_pure _
  · exact observes_fail _

/-- A choice among some ids is made by the balancer and by reading records, in turn. -/
lemma observes_selectFrom (hchoice : Chooses e) (rounds : Nat) (ids : List String) :
    Operation.Observes e (m.selectFrom rounds ids) := by
  induction rounds generalizing ids with
  | zero => exact observes_pure none
  | succ rounds ih =>
    refine (observes_step fun s => hchoice s ids).bind fun choice => ?_
    cases choice with
    | none => exact observes_pure none
    | some id =>
      refine (observes_find? h id).bind fun r => ?_
      cases r with
      | none => exact ih _
      | some r => exact (observes_resolve h r).bind fun n => observes_pure _

/-- A selection lists the ids and makes a choice among them. -/
lemma observes_selectWorker (hchoice : Chooses e) : Operation.Observes e m.selectWorker :=
  (observes_ids h).bind fun ids => observes_selectFrom h hchoice ids.length ids

/-- A look for a worker reads its record and resolves it. -/
lemma observes_getWorker (id : String) : Operation.Observes e (m.getWorker id) :=
  (observes_get h id).bind fun r => observes_resolve h r

/-- A sign of life reads a record and writes it, and then the worker is greeted. -/
lemma observes_heartbeat (id : String) : Operation.Observes e (m.heartbeat id) :=
  (observes_get h id).bind fun r₀ => (observes_renewal h r₀).bind fun r =>
    observes_greet h r (fun n s => .heard (s.pool.contact n)) fun _ => r

/-- What is told about workers takes reading and resolving the record of each. -/
lemma observes_summaries (ids : List String) : Operation.Observes e (m.summaries ids) := by
  induction ids with
  | nil => exact observes_pure _
  | cons id ids ih =>
    refine (observes_find? h id).bind fun r => ?_
    cases r with
    | none => exact ih
    | some r =>
      exact (observes_resolve h r).bind fun n => (observes_read _).bind fun p =>
        ih.bind fun rest => observes_pure _

/-- The list of workers takes a listing of the ids as well. -/
lemma observes_listWorkers : Operation.Observes e m.listWorkers :=
  (observes_ids h).bind fun ids => observes_summaries h ids

/-! ## Sweeps and the end -/

/-- An eviction is a removal that is counted and noted. -/
lemma observes_evict (id : String) (cause : State ω → EvictionCause) :
    Operation.Observes e (m.evict id cause) :=
  (observes_withdraw h id).bind fun _ => (observes_count h _).bind fun _ => observes_note h _

/-- A renewal writes the record again, and is noted if that works. -/
lemma observes_renew (r : WorkerRecord) : Operation.Observes e (m.renew r) := by
  refine (observes_renewal h r).attempt.bind fun outcome => ?_
  split
  · exact observes_note h _
  · exact observes_pure _
  · exact observes_fail _

/-- What follows a health check is a renewal, or an eviction, or nothing more. -/
lemma observes_conclude (id : String) (r : WorkerRecord) (n : Nat)
    (outcome : Except Error WorkerStatus) : Operation.Observes e (m.conclude id r n outcome) := by
  cases outcome with
  | ok status =>
    exact (observes_note h _).bind fun _ => (observes_renew h r).bind fun _ => observes_pure _
  | error e =>
    refine (observes_note h _).bind fun _ => (observes_count h _).bind fun _ =>
      (observes_read _).bind fun errors => ?_
    split
    · exact (observes_evict h id _).bind fun _ => observes_pure _
    · exact observes_pure _

/-- A health check is a request to the worker and what follows it. -/
lemma observes_probe (id : String) (r : WorkerRecord) : Operation.Observes e (m.probe id r) :=
  (observes_resolve h r).bind fun n => (observes_note h _).bind fun _ =>
    (observes_call h n isDiscreet_checkStatus).attempt.bind fun outcome =>
      observes_conclude h id r n outcome

/-- Judging a worker takes reading its record, and then an eviction, a health check or nothing. -/
lemma observes_judge (now : Timestamp) (id : String) : Operation.Observes e (m.judge now id) := by
  refine (observes_find? h id).bind fun r => ?_
  cases r with
  | none => exact observes_pure _
  | some r =>
    dsimp only
    split
    · exact (observes_evict h id _).bind fun _ => observes_pure _
    split
    · exact observes_probe h id r
    · exact observes_pure _

/-- Workers are judged one after the other. -/
lemma observes_judgeAll (now : Timestamp) (report : SweepReport) (ids : List String) :
    Operation.Observes e (m.judgeAll now report ids) := by
  induction ids generalizing report with
  | nil => exact observes_pure _
  | cons id ids ih => exact (observes_judge h now id).attempt.bind fun verdict => ih _

/-- The end of a sweep lists the ids and forgets some workers. -/
lemma observes_prune : Operation.Observes e m.prune := by
  refine (observes_ids h).bind fun live => observes_update fun s => ?_
  have hforget : ∀ (ids : List String) (t : State ω), e.leads s t →
      e.leads s (ids.foldl State.forget t) := by
    intro ids
    induction ids with
    | nil => exact fun _ ht => ht
    | cons id ids ih => exact fun t ht => ih _ (e.trans ht (h.forget t id))
  exact hforget _ s (e.refl s)

/-- A sweep lists the ids, judges the workers and forgets those that are gone. -/
lemma observes_sweep : Operation.Observes e m.sweep :=
  (observes_ids h).bind fun ids => (observes_read _).bind fun now =>
    (observes_judgeAll h now {} ids).bind fun report => (observes_prune h).attempt.bind fun _ =>
      observes_pure report

/-- The end of the manager stops the eviction loop and closes the store. -/
lemma observes_close : Operation.Observes e m.close :=
  (observes_update h.stop).bind fun _ => observes_step fun s => h.close s

end Operations

end Manager

namespace Scheduler

open Manager Manager.State Operation

variable {ω : Type} {c : Scheduler ω} {e : Conduct (State ω)} (h : c.manager.Upholds e)

include h

/-- Offering a task to the worker that has been selected. -/
lemma observes_offer (t : Task) (n : Nat) :
    Operation.Observes e (do
      let assigned ← call n fun p => p.dispatch t
      note fun s => .dispatched (s.pool.contact n) t.id
      return assigned) :=
  (observes_call h n fun p => isDiscreet_of_isService (isService_dispatch p t)).bind
    fun assigned => (observes_note h _).bind fun _ => observes_pure assigned

/-- Handing a task over takes a selection and an offer. -/
lemma observes_execute (hchoice : Chooses e) (t : Task) : Operation.Observes e (c.execute t) := by
  refine (observes_selectWorker h hchoice).bind fun choice => ?_
  cases choice with
  | none => exact observes_fail _
  | some n => exact observes_offer h t n

/-- Asking a worker about a task takes a look for the worker and a request to it. -/
lemma observes_remoteStatus (remoteId workerId : String) :
    Operation.Observes e (c.remoteStatus remoteId workerId) :=
  (observes_getWorker h workerId).bind fun n =>
    (observes_call h n fun p => isDiscreet_of_isService (isService_taskStatus p remoteId)).bind
      fun report => (observes_note h _).bind fun _ => observes_pure report

/-! ## Tasks -/

section Tasks

variable (hquery : ∀ {α : Type} (q : Query ω α), Operation.Observes e (query q))

include hquery

omit h in
/-- Taking back the record of a task takes a call of the store, at most. -/
lemma observes_rollBack (id : String) : Operation.Observes e (c.rollBack id) := by
  unfold rollBack
  split
  · exact (hquery _).attempt.bind fun _ => observes_pure ()
  · exact observes_pure ()

/-- Asking for a task is then a matter of asking its worker. -/
lemma observes_status (id : String) : Operation.Observes e (c.status id) := by
  refine (hquery _).bind fun t => ?_
  cases t.assignment with
  | none => exact observes_pure _
  | some a =>
    refine (observes_remoteStatus h a.remoteId a.workerId).bind fun report => ?_
    dsimp only
    split
    · exact (hquery _).bind fun _ => observes_pure _
    · exact observes_pure _

end Tasks

end Scheduler

/-! ## The world -/

/-- A conduct of the world, as one of a manager's state. -/
def Conduct.onWorld {ω : Type} (d : Conduct ω) : Conduct (Manager.State ω) where
  leads s t := d.leads s.world t.world
  refl s := d.refl s.world
  trans := d.trans

/-- Whether all calls of a store observe a conduct. -/
structure WorkerStore.Observes {ω : Type} (store : WorkerStore ω) (d : Conduct ω) : Prop where
  perform : ∀ (call : WorkerCall) (w : ω), d.leads w (call.perform store w).2
  close : ∀ w, d.leads w (store.close w).2

section World

variable {ω : Type} {d : Conduct ω}

/-- A query that observes a conduct. -/
lemma Manager.State.observes_query {α : Type} {q : Query ω α} (h : ∀ w, d.leads w (q w).2) :
    Operation.Observes d.onWorld (query q) :=
  Operation.observes_step fun s => h s.world

/-- **A manager does to the world what the calls of its store do.** -/
theorem WorkerStore.Observes.onWorld {m : Manager ω} (h : m.workers.Observes d) :
    m.Observes d.onWorld where
  perform call s := h.perform call s.world
  close s := h.close s.world
  pool s _ := d.refl s.world
  observe s _ _ := d.refl s.world
  forget s _ := d.refl s.world
  metrics s _ := d.refl s.world
  journal s _ := d.refl s.world
  stop s := d.refl s.world

/-- The choices of a balancer leave the world alone. -/
lemma Manager.chooses_onWorld : Manager.Chooses d.onWorld := fun s _ => d.refl s.world

end World

end ConversionScheduler
