import ConversionScheduler.Proofs.Absences
import ConversionScheduler.Proofs.TaskStages
/-!
# Whom requests go to

Before a request is made to a worker, the worker's record is read, and the proxy through which the
request is made is one at the address in that record. So an address that is cached and no longer
right is never used, whatever is asked of a scheduler and in whatever state it is.

## Main definitions

* `Act.Sends` — operations all of whose requests have a property.
* `WorkerRecord.IsAddressed` — requests that go to the address in a record.
* `Manager.IsAddressed`, `Manager.IsLocated` — a record has just been read, and its address is that
  of a request, or of a proxy.

## Main results

* `Manager.isLocated_selectWorker` — the proxy of a selected worker.
* `Manager.sends_sweep`, `Scheduler.sends_execute`, `Scheduler.sends_remoteStatus` — the operations
  that make requests.
* `Scheduler.Demand.sends_addressed` — every request goes to the address in the record just read.
-/

namespace ConversionScheduler

open Manager (State)
open Manager.State (query call)

/-! ## The requests of an operation -/

namespace Act

variable {σ α β : Type} {a : Act σ α} {f : α → σ → Act σ β}

/-- Whether all requests of an operation have a property, in the states in which they are made. -/
def Sends (p : Http.Request → σ → Prop) : Act σ α → Prop
  | finished _ _ => True
  | waiting r s k => p r s ∧ ∀ o u, (k o u).Sends p

/-- The requests of two operations, one after the other, are those of both. -/
lemma Sends.andThen {p : Http.Request → σ → Prop} (h : a.Sends p)
    (hf : ∀ x s, (f x s).Sends p) : (a.andThen f).Sends p := by
  induction a with
  | finished x s => exact hf x s
  | waiting r s k ih => exact ⟨h.1, fun o u => ih o u (h.2 o u)⟩

end Act

namespace Operation

variable {σ α β : Type} {x : Operation σ α} {s : σ}

/-- The same when the second operation follows only if the first succeeds. -/
lemma sends_bind {p : Http.Request → σ → Prop} {f : α → Operation σ β} (h : (x s).Sends p)
    (hf : ∀ a u, (f a u).Sends p) : ((x >>= f) s).Sends p := by
  refine h.andThen fun r u => ?_
  cases r with
  | error e => trivial
  | ok a => exact hf a u

/-- Catching a failure makes no requests. -/
lemma sends_attempt {p : Http.Request → σ → Prop} (h : (x s).Sends p) : (x.attempt s).Sends p := by
  refine h.andThen fun r u => ?_
  rcases r with (e | ⟨⟩) | a <;> trivial

end Operation

/-! ## Addresses -/

/-- Whether a request is one to a worker at the address in a record. -/
def WorkerRecord.IsAddressed (record : WorkerRecord) (r : Http.Request) : Prop :=
  ∃ method segments body, (Proxy.ofRecord record).request method segments body = .ok r

/-- A request that is made through a proxy at the address in a record. -/
lemma Proxy.isAddressed_request {p : Proxy} {record : WorkerRecord} (h : p.addr = record.addr)
    {method : Http.Method} {segments : List String} {body : Option String} {r : Http.Request}
    (hr : p.request method segments body = .ok r) : record.IsAddressed r :=
  ⟨method, segments, body, (request_congr h.symm ..).trans hr⟩

namespace Manager

variable {ω α : Type} {m : Manager ω} {s : State ω}

/-- Whether a record has just been read, to whose address a request goes. -/
def IsAddressed (m : Manager ω) (r : Http.Request) (s : State ω) : Prop :=
  ∃ id record w, m.workers.get id w = (.ok record, s.world) ∧ record.IsAddressed r

/-- Whether a record has just been read, at whose address the proxy with a number is. -/
def IsLocated (m : Manager ω) (n : Nat) (s : State ω) : Prop :=
  ∃ id record w, m.workers.get id w = (.ok record, s.world) ∧ (s.pool.proxy n).addr = record.addr

/-- A call whose request goes to one of a worker's resources. -/
lemma sends_call {n : Nat} (hn : m.IsLocated n s) {c : Proxy → Call α} {method : Http.Method}
    {segments : List String} {body : Option String}
    (hc : ∀ p, (c p).request = p.request method segments body) :
    (call n c s).Sends m.IsAddressed := by
  cases hsent : (c (s.pool.proxy n)).request with
  | error fault =>
    rw [State.call_of_fault hsent]
    trivial
  | ok r =>
    rw [State.call_of_request hsent]
    obtain ⟨id, record, w, hget, haddr⟩ := hn
    exact ⟨⟨id, record, w, hget, Proxy.isAddressed_request haddr ((hc _).symm.trans hsent)⟩,
      fun _ _ => trivial⟩

/-- The proxy found among some ids is at the address in the record that was read last.

**Proof sketch.** Each round reads the record of the id that the balancer chooses. If it is there
its proxy is resolved to the address in it, and that is the end; otherwise the ids are fewer in the
next round. -/
lemma isLocated_selectFrom {rounds : Nat} {ids : List String} {n : Nat} {u : State ω}
    (hrun : m.selectFrom rounds ids s = .finished (.ok (some n)) u) : m.IsLocated n u := by
  induction rounds generalizing ids s with
  | zero => exact absurd (Act.finished.inj hrun).1 (by simp)
  | succ rounds ih =>
    rw [selectFrom, Operation.bind_apply] at hrun
    rcases hselect : s.balancer.select ids with ⟨choice, balancer⟩
    simp only [Operation.step, hselect, Act.andThen] at hrun
    cases choice with
    | none => exact absurd (Act.finished.inj hrun).1 (by simp)
    | some id =>
      change (m.find? id >>= _) _ = _ at hrun
      rw [Operation.bind_apply] at hrun
      obtain ⟨r, w, hread, hfind⟩ | ⟨e, w, hread, hfind | ⟨e', hfind⟩⟩ :=
        find?_cases m id { s with balancer := balancer }
      · rw [hfind] at hrun
        obtain ⟨hn, rfl⟩ := Act.finished.inj hrun
        obtain rfl := Option.some.inj (Except.ok.inj hn)
        exact ⟨id, r, s.world, hread, Pool.addr_resolve s.pool r⟩
      · rw [hfind] at hrun
        exact ih hrun
      · rw [hfind] at hrun
        exact absurd (Act.finished.inj hrun).1 (by simp)

/-- The proxy of a selected worker is at the address in the record that was read last. -/
lemma isLocated_selectWorker {n : Nat} {u : State ω}
    (hrun : m.selectWorker s = .finished (.ok (some n)) u) : m.IsLocated n u := by
  change (query m.workers.ids >>= _) s = _ at hrun
  rcases hids : m.workers.ids s.world with ⟨e | ids, w⟩
  · rw [State.query_bind_error hids] at hrun
    exact absurd (Act.finished.inj hrun).1 (by simp)
  · rw [State.query_bind_ok hids] at hrun
    exact isLocated_selectFrom hrun

/-! ### Operations without requests -/

section Silent

variable {p : Http.Request → State ω → Prop}

/-- A removal from the store makes no requests. -/
lemma sends_withdraw (id : String) : (m.withdraw id s).Sends p :=
  Operation.sends_bind trivial fun _ _ => trivial

/-- The removal of a worker makes no requests. -/
lemma sends_removeWorker (id : String) : (m.removeWorker id s).Sends p :=
  Operation.sends_bind (sends_withdraw id) fun _ _ => trivial

/-- A look for a worker makes no requests. -/
lemma sends_getWorker (id : String) : (m.getWorker id s).Sends p :=
  Operation.sends_bind trivial fun _ _ => trivial

/-- A sign of life makes no requests. -/
lemma sends_heartbeat (id : String) : (m.heartbeat id s).Sends p :=
  Operation.sends_bind trivial fun _ _ => Operation.sends_bind trivial fun _ _ =>
    Operation.sends_bind trivial fun _ _ => Operation.sends_bind trivial fun _ _ =>
      Operation.sends_bind trivial fun _ _ => Operation.sends_bind trivial fun _ _ => trivial

/-- A look at a record makes no requests, whether or not it is there. -/
lemma sends_find? (id : String) : (m.find? id s).Sends p := by
  obtain ⟨r, w, -, hfind⟩ | ⟨e, w, -, hfind | ⟨e', hfind⟩⟩ := find?_cases m id s <;>
    (rw [hfind]; trivial)

/-- A selection makes no requests: it reads records until one is there. -/
lemma sends_selectWorker : (m.selectWorker s).Sends p := by
  obtain ⟨choice, u, hselect⟩ := selectWorker_finished m s
  rw [hselect]
  trivial

/-- What is told about workers comes from their records and from the pool. -/
lemma sends_summaries (ids : List String) : (m.summaries ids s).Sends p := by
  induction ids generalizing s with
  | nil => trivial
  | cons id ids ih =>
    refine Operation.sends_bind (sends_find? id) fun r u => ?_
    cases r with
    | none => exact ih
    | some r =>
      exact Operation.sends_bind trivial fun _ _ => Operation.sends_bind trivial fun _ _ =>
        Operation.sends_bind ih fun _ _ => trivial

/-- The list of workers makes no requests. -/
lemma sends_listWorkers : (m.listWorkers s).Sends p :=
  Operation.sends_bind trivial fun ids _ => sends_summaries ids

/-- An eviction makes no requests, whatever its cause. -/
lemma sends_evict (id : String) (cause : State ω → EvictionCause) : (m.evict id cause s).Sends p :=
  Operation.sends_bind (sends_withdraw id) fun _ _ =>
    Operation.sends_bind trivial fun _ _ => trivial

/-- A renewal makes no requests, even if the record is gone. -/
lemma sends_renew (r : WorkerRecord) : (m.renew r s).Sends p := by
  refine Operation.sends_bind (Operation.sends_attempt trivial) fun outcome u => ?_
  rcases outcome with (e | r)
  · cases e <;> trivial
  · trivial

/-- What follows the outcome of a health check makes no further requests. -/
lemma sends_conclude (id : String) (r : WorkerRecord) (n : Nat)
    (outcome : Except Error WorkerStatus) : (m.conclude id r n outcome s).Sends p := by
  cases outcome with
  | ok status =>
    exact Operation.sends_bind trivial fun _ _ => Operation.sends_bind (sends_renew r) fun _ _ =>
      trivial
  | error e =>
    refine Operation.sends_bind trivial fun _ _ => Operation.sends_bind trivial fun _ _ =>
      Operation.sends_bind trivial fun errors _ => ?_
    split
    · exact Operation.sends_bind (sends_evict id _) fun _ _ => trivial
    · trivial

/-- The end of a sweep makes no requests. -/
lemma sends_prune : (m.prune s).Sends p := Operation.sends_bind trivial fun _ _ => trivial

end Silent

/-! ### Operations with requests -/

/-- The health of a worker is checked at the address in its record.

**Proof sketch.** Only a worker with a record is probed, and its proxy was resolved by that record
just before, so that it has the address in it. -/
lemma sends_judge (now : Timestamp) (id : String) : (m.judge now id s).Sends m.IsAddressed := by
  rw [judge, Operation.bind_apply]
  obtain ⟨r, w, hget, hfind⟩ | ⟨e, w, -, hfind | ⟨e', hfind⟩⟩ := find?_cases m id s
  · rw [hfind]
    show ((if r.isStale now m.settings.staleThreshold then
        m.evict id (fun _ => .stale) >>= fun _ => pure Verdict.evictedStale
      else if m.settings.healthCheckEnabled then m.probe id r
      else pure .kept) { s with world := w }).Sends _
    split
    · exact Operation.sends_bind (sends_evict id _) fun _ _ => trivial
    split
    · obtain ⟨n, hn⟩ : ∃ n, n = (s.pool.resolve r).1 := ⟨_, rfl⟩
      obtain ⟨t, ht⟩ : ∃ t : State ω, t = { s with
        world := w
        pool := (s.pool.resolve r).2
        journal := .examined id r ((s.pool.resolve r).2.contact n) :: s.journal } := ⟨_, rfl⟩
      have hlocated : m.IsLocated n t := by
        rw [ht, hn]
        exact ⟨id, r, s.world, hget, Pool.addr_resolve s.pool r⟩
      have hrun : m.probe id r { s with world := w } =
          ((call n Proxy.checkStatus).attempt >>= m.conclude id r n) t := by
        rw [ht, hn]
        rfl
      rw [hrun]
      exact Operation.sends_bind (Operation.sends_attempt (sends_call hlocated fun _ => rfl))
        fun outcome _ => sends_conclude id r n outcome
    · trivial
  · rw [hfind]
    trivial
  · rw [hfind]
    trivial

/-- Judging workers makes only the requests of their health checks, each to the address in the
record just read. -/
lemma sends_judgeAll (now : Timestamp) (report : SweepReport) (ids : List String) :
    (m.judgeAll now report ids s).Sends m.IsAddressed := by
  induction ids generalizing report s with
  | nil => trivial
  | cons id ids ih =>
    exact Operation.sends_bind (Operation.sends_attempt (sends_judge now id)) fun _ _ => ih _

/-- So does a sweep. -/
lemma sends_sweep : (m.sweep s).Sends m.IsAddressed :=
  Operation.sends_bind trivial fun ids _ => Operation.sends_bind trivial fun now _ =>
    Operation.sends_bind (sends_judgeAll now {} ids) fun _ _ =>
      Operation.sends_bind (Operation.sends_attempt sends_prune) fun _ _ => trivial

end Manager

namespace Scheduler

open Manager (IsAddressed)

variable {ω : Type} {c : Scheduler ω} {s : State ω}

/-- A task is offered at the address in the record of the selected worker. -/
lemma sends_execute (task : Task) : (c.execute task s).Sends c.manager.IsAddressed := by
  obtain ⟨choice, u, hselect⟩ := Manager.selectWorker_finished c.manager s
  rw [execute, Operation.bind_apply, hselect]
  rcases choice with e | _ | n
  · trivial
  · trivial
  · exact Operation.sends_bind (Manager.sends_call (Manager.isLocated_selectWorker hselect)
      fun _ => rfl) fun _ _ => Operation.sends_bind trivial fun _ _ => trivial

/-- A worker is asked about a task at the address in its record. -/
lemma sends_remoteStatus (remoteId workerId : String) :
    (c.remoteStatus remoteId workerId s).Sends c.manager.IsAddressed := by
  rw [remoteStatus, Operation.bind_apply]
  obtain ⟨e, s', hworker, -⟩ | ⟨r, n, u, hget, hworker, haddr⟩ :=
    getWorker_cases c.manager workerId s
  · rw [hworker]
    trivial
  · rw [hworker]
    exact Operation.sends_bind (Manager.sends_call ⟨workerId, r, _, hget, haddr⟩ fun _ => rfl)
      fun _ _ => Operation.sends_bind trivial fun _ _ => trivial

/-- A submission makes one request at most, to the address in the record of the worker selected. -/
lemma sends_schedule (task : Task) : (c.schedule task s).Sends c.manager.IsAddressed := by
  refine Operation.sends_bind trivial fun _ _ =>
    Operation.sends_bind (Operation.sends_attempt (sends_execute task)) fun r u => ?_
  cases r with
  | ok assigned =>
    exact Operation.sends_bind trivial fun _ _ => Operation.sends_bind trivial fun _ _ => trivial
  | error e =>
    refine Operation.sends_bind trivial fun _ _ => Operation.sends_bind ?_ fun _ _ => trivial
    unfold rollBack
    split
    · exact Operation.sends_bind (Operation.sends_attempt trivial) fun _ _ => trivial
    · trivial

/-- An inquiry makes one request at most, to the address in the record of the worker that has the
task. -/
lemma sends_status (id : String) : (c.status id s).Sends c.manager.IsAddressed := by
  refine Operation.sends_bind trivial fun task u => ?_
  cases task.assignment with
  | none => trivial
  | some a =>
    refine Operation.sends_bind (sends_remoteStatus a.remoteId a.workerId) fun report v => ?_
    dsimp only
    split
    · exact Operation.sends_bind trivial fun _ _ => trivial
    · trivial

/-- **Every request goes to the address in the record that was read last**, whatever is asked of a
scheduler and in whatever state it is. -/
theorem Demand.sends_addressed (d : Demand) (s : State ω) :
    (d.run c s).Sends c.manager.IsAddressed := by
  have hdiscard : ∀ {β : Type} {x : Operation (State ω) β}, (x s).Sends c.manager.IsAddressed →
      ((x >>= fun _ => pure ()) s).Sends c.manager.IsAddressed :=
    fun hx => Operation.sends_bind hx fun _ _ => trivial
  cases d with
  | submit task => exact hdiscard (sends_schedule task)
  | poll id => exact hdiscard (sends_status id)
  | stop =>
    exact Operation.sends_bind (Operation.sends_bind trivial fun _ _ => trivial) fun _ _ => trivial
  | manage a =>
    cases a with
    | register r =>
      obtain ⟨x, u, hx⟩ := Manager.addWorker_finished c.manager r s
      exact hdiscard (by rw [hx]; trivial)
    | deregister id => exact Manager.sends_removeWorker id
    | heartbeat id => exact hdiscard (Manager.sends_heartbeat id)
    | select => exact hdiscard Manager.sends_selectWorker
    | find id => exact hdiscard (Manager.sends_getWorker id)
    | list => exact hdiscard Manager.sends_listWorkers
    | sweep => exact hdiscard Manager.sends_sweep
    | execute t => exact hdiscard (sends_execute t)
    | ask remoteId workerId => exact hdiscard (sends_remoteStatus remoteId workerId)

end Scheduler

end ConversionScheduler
