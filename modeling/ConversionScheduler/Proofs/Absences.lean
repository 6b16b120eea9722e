import ConversionScheduler.Proofs.Dispatches
import ConversionScheduler.Proofs.TaskStages
/-!
# Only a registration makes a worker live

A sweep holds the record of a worker while it waits for the worker's answer, and a sign of life is
written after the record was read. In the meantime the worker may have been removed, by a client, by
another sweep or by time. It stays removed then: all that is written about a worker without a
registration is written on condition that its record is there at this very moment.

That is shown by closing the store to one id: the manager of a closed store does the same, unless it
is asked to register this worker, and no call of a closed store ever brings the worker about.

## Main definitions

* `WorkerStore.closedTo` — a store that writes no new record for one of the workers.
* `Act.Rests`, `Configuration.IsSteady` — the operations that wait observe a conduct from now on.
* `Scheduler.IsCalm` — the invariant of a run.
* `Scheduler.Quiet` — the steps in which no registration of a worker reaches the store.

## Main results

* `Scheduler.Action.run_closedTo` — what a manager does, it does with a closed store.
* `Scheduler.IsCalm.start`, `Scheduler.Quiet.fades` — one step.
* `Scheduler.fades_of_quiet` — all the steps until a registration.
* `Scheduler.absent_of_withdraw` — a worker that is removed, by whomever, is absent.
* `absent_until_registered` — a worker that is absent stays so until it is registered.
-/

namespace ConversionScheduler

open Manager (State)
open Manager.State (query resolve)

/-! ## Closing a store to a worker -/

/-- A store that writes no new record for one of the workers. -/
def WorkerStore.closedTo {ω : Type} (store : WorkerStore ω) (id : String) : WorkerStore ω :=
  { store with add := fun r => if r.id = id then Query.done () else store.add r }

/-- No call of a closed store brings the worker about, also if some calls fail.

**Proof sketch.** Only an addition could bring the worker about, and one with its id is refused by
the closed store. -/
lemma WorkerBackend.observes_closedTo {b : WorkerBackend} {stores : Stores Site}
    (hb : stores.workers = b.store) (id : String) :
    (stores.withFaults.workers.closedTo id).Observes (b.fading (· ≠ id)).onBase where
  close := fading_close_withFaults hb
  perform call w := by
    have hopen : ∀ call : WorkerCall, (∀ r, call = .add r → r.id ≠ id) →
        (b.fading (· ≠ id)).onBase.leads w (call.perform stores.withFaults.workers w).2 :=
      fun call h => fading_withFaults hb call h w
    cases call with
    | add r =>
      rw [WorkerCall.perform, Query.map_apply, WorkerStore.closedTo]
      dsimp only
      split
      · exact (b.fading _).onBase.refl w
      · rename_i hid
        have hadd := hopen (.add r) fun r' hr' => WorkerCall.add.inj hr' ▸ hid
        rwa [WorkerCall.perform, Query.map_apply] at hadd
    | remove id' => exact hopen (.remove id') fun _ hr => by cases hr
    | get id' => exact hopen (.get id') fun _ hr => by cases hr
    | ids => exact hopen .ids fun _ hr => by cases hr
    | heartbeat r => exact hopen (.heartbeat r) fun _ hr => by cases hr

namespace Manager

section Reads

variable {ω : Type} {m m' : Manager ω} (hfind : m'.find? = m.find?)

include hfind

/-- The selection of a worker depends on nothing but how records are read. -/
lemma selectFrom_congr (rounds : Nat) : m'.selectFrom rounds = m.selectFrom rounds := by
  induction rounds with
  | zero => rfl
  | succ rounds ih =>
    funext ids
    simp only [selectFrom, hfind, ih]

/-- The selection depends on nothing but how ids are listed and records are read. -/
lemma selectWorker_congr (hids : m'.workers.ids = m.workers.ids) :
    m'.selectWorker = m.selectWorker := by
  unfold selectWorker
  simp only [hids, selectFrom_congr hfind]

/-- Neither does the list of workers. -/
lemma summaries_congr (ids : List String) : m'.summaries ids = m.summaries ids := by
  induction ids with
  | nil => rfl
  | cons id ids ih => simp only [summaries, hfind, ih]

/-- The list of workers depends on nothing else either. -/
lemma listWorkers_congr (hids : m'.workers.ids = m.workers.ids) :
    m'.listWorkers = m.listWorkers := by
  unfold listWorkers
  simp only [hids, summaries_congr hfind]

end Reads

variable {ω : Type} (m : Manager ω) (id : String)

/-- The manager of the closed store. -/
def closedTo : Manager ω := { m with workers := m.workers.closedTo id }

/-- A closed store is selected from like the open one, for a selection writes nothing. -/
lemma selectWorker_closedTo : (m.closedTo id).selectWorker = m.selectWorker :=
  selectWorker_congr rfl rfl

/-- The workers of a closed store are told like those of the open one. -/
lemma listWorkers_closedTo : (m.closedTo id).listWorkers = m.listWorkers :=
  listWorkers_congr rfl rfl

/-- Judging workers writes no new record, so it does not notice that a store is closed. -/
lemma judgeAll_closedTo (now : Timestamp) (report : SweepReport) (ids : List String) :
    (m.closedTo id).judgeAll now report ids = m.judgeAll now report ids := by
  induction ids generalizing report with
  | nil => rfl
  | cons id' ids ih =>
    simp only [judgeAll, ih]
    rfl

/-- Neither does a sweep. -/
lemma sweep_closedTo : (m.closedTo id).sweep = m.sweep := by
  unfold sweep
  simp only [judgeAll_closedTo]
  rfl

/-- A store that is closed to one worker takes in the others. -/
lemma addWorker_closedTo {q : Registration} (h : q.id ≠ id) :
    (m.closedTo id).addWorker q = m.addWorker q := by
  have hadd : ∀ now, (m.closedTo id).workers.add (.ofRegistration q now) =
      m.workers.add (.ofRegistration q now) := fun _ => if_neg h
  unfold addWorker
  simp only [hadd]
  rfl

end Manager

namespace Scheduler

variable {ω : Type}

/-- The scheduler over the closed store. -/
def closedTo (c : Scheduler ω) (id : String) : Scheduler ω :=
  { c with stores := { c.stores with workers := c.stores.workers.closedTo id } }

/-- **What a scheduler does with its workers, it does with a store that is closed to one of them**,
unless it is asked to register this one. -/
theorem Action.run_closedTo (c : Scheduler ω) {id : String} {a : Action}
    (h : ∀ q, a = .register q → q.id ≠ id) : a.run (c.closedTo id) = a.run c := by
  have hmanager : (c.closedTo id).manager = c.manager.closedTo id := rfl
  cases a with
  | register q =>
    simp only [run, Scheduler.register, hmanager, Manager.addWorker_closedTo _ _ (h q rfl)]
  | deregister | heartbeat | find | ask => rfl
  | select => simp only [run, hmanager, Manager.selectWorker_closedTo]
  | list => simp only [run, hmanager, Manager.listWorkers_closedTo]
  | sweep => simp only [run, hmanager, Manager.sweep_closedTo]
  | execute t => simp only [run, Scheduler.execute, hmanager, Manager.selectWorker_closedTo]

end Scheduler

/-! ## Operations that wait -/

/-- Whether an operation observes a conduct from its first pause on, whatever the others do. -/
def Act.Rests {σ α : Type} (d : Conduct σ) : Act σ α → Prop
  | finished _ _ => True
  | waiting _ _ k => ∀ o s, (k o s).Observes d s

/-- An operation that observes a conduct from its start observes it from its first pause. -/
lemma Act.Observes.rests {σ α : Type} {d : Conduct σ} {s : σ} {a : Act σ α} (h : a.Observes d s) :
    a.Rests d := by
  cases a with
  | finished x t => trivial
  | waiting r t k => exact h.2

namespace Configuration

variable {σ : Type} {d : Conduct σ} {n : Configuration σ} {ws : List (Waiting σ)}
  {a : Act σ (Except Failure Unit)} {s : σ}

/-- Whether the operations that wait observe a conduct from now on, whatever the others do. -/
def IsSteady (d : Conduct σ) (n : Configuration σ) : Prop :=
  ∀ w ∈ n.waiting, ∀ o s, (w.resume o s).Observes d s

/-- An operation that observes a conduct and is begun, or goes on, leads on. -/
lemma leads_enrol (ws : List (Waiting σ)) (ha : a.Observes d s) :
    d.leads s (Configuration.enrol ws a).state := by
  cases a with
  | finished r t => exact ha
  | waiting r t k => exact ha.1

/-- The operations that wait stay steady when one comes in that is steady from its first pause. -/
lemma IsSteady.enrol_of_rests (h : n.IsSteady d) (hws : ∀ w ∈ ws, w ∈ n.waiting)
    (ha : a.Rests d) : (Configuration.enrol ws a).IsSteady d := by
  cases a with
  | finished r t => exact fun w hw => h w (hws w hw)
  | waiting r t k =>
    intro w hw
    obtain hw | hw := List.mem_append.mp hw
    · exact h w (hws w hw)
    · obtain rfl := List.mem_singleton.mp hw
      exact ha

/-- An operation that observes a conduct leads on, and leaves the operations that wait steady. -/
lemma IsSteady.enrol (h : n.IsSteady d) (hws : ∀ w ∈ ws, w ∈ n.waiting) (ha : a.Observes d s) :
    d.leads s (Configuration.enrol ws a).state ∧ (Configuration.enrol ws a).IsSteady d :=
  ⟨leads_enrol ws ha, h.enrol_of_rests hws ha.rests⟩

/-- An operation goes on. -/
lemma IsSteady.resume (h : n.IsSteady d) (i : Nat) (o : Http.Outcome) :
    d.leads n.state (n.resume i o).state ∧ (n.resume i o).IsSteady d := by
  unfold Configuration.resume
  split
  · rename_i w hw
    exact h.enrol (fun _ hw' => List.mem_of_mem_eraseIdx hw')
      (h w (List.mem_of_getElem? hw) o n.state)
  · exact ⟨d.refl _, h⟩

end Configuration

/-! ## Registrations -/

/-- A call that a rule lets fail. -/
lemma Faulty.guarded_of_caught {ω α : Type} {m : StoreMethod} {id : String} {q : Query ω α}
    {w : Faulty ω} (h : (FaultRule.apply m id w.rules).1 ≠ none) :
    ∃ e, (Faulty.guarded m id q w).1 = .error e ∧ (Faulty.guarded m id q w).2.base = w.base := by
  unfold Faulty.guarded
  rcases hrule : FaultRule.apply m id w.rules with ⟨_ | e, rules⟩
  · rw [hrule] at h
    exact absurd rfl h
  · exact ⟨_, rfl, rfl⟩

namespace Manager

variable {ω : Type}

/-- A registration does not wait. -/
lemma addWorker_finished (m : Manager ω) (q : Registration) (s : State ω) :
    ∃ r u, m.addWorker q s = .finished r u := by
  show ∃ r u, (query (m.workers.add (.ofRegistration q (m.now s.world))) >>= _) s = _
  rcases hadd : m.workers.add (.ofRegistration q (m.now s.world)) s.world with ⟨e | ⟨⟩, w⟩
  · exact ⟨_, _, State.query_bind_error hadd _⟩
  · rw [State.query_bind_ok hadd]
    rcases hheard : m.workers.heartbeat (.ofRegistration q (m.now s.world)) w with ⟨e | r, w'⟩
    · exact ⟨_, _, State.query_bind_error hheard _⟩
    · rw [State.query_bind_ok hheard]
      exact ⟨_, _, rfl⟩

/-- A registration whose first call fails changes nothing else. -/
lemma addWorker_of_refused {m : Manager ω} {q : Registration} {s : State ω} {e : Failure} {w : ω}
    (h : m.workers.add (.ofRegistration q (m.now s.world)) s.world = (.error e, w)) :
    m.addWorker q s = .finished (.error e) { s with world := w } := by
  show (query (m.workers.add (.ofRegistration q (m.now s.world))) >>= _) s = _
  exact State.query_bind_error h _

end Manager

/-! ## What is read -/

namespace Manager

variable {ω : Type} {m : Manager ω} {d : Conduct ω} {s u : State ω}

/-- What is told about a worker comes from its record.

**Proof sketch.** Induction on the ids. What is told about the first is in the record read for it,
and the others are told about on the state after that reading, which the first state leads to. -/
lemma summaries_read (h : m.workers.Observes d) {ids : List String} {xs : List WorkerSummary}
    (hrun : m.summaries ids s = .finished (.ok xs) u) {x : WorkerSummary} (hx : x ∈ xs) :
    ∃ id r w w', d.leads s.world w ∧ m.workers.get id w = (.ok r, w') ∧ x.id = r.id := by
  induction ids generalizing s xs u with
  | nil =>
    obtain rfl := Except.ok.inj (Act.finished.inj hrun).1
    exact absurd hx (by simp)
  | cons id ids ih =>
    rw [summaries, Operation.bind_apply] at hrun
    have hget := h.perform (.get id) s.world
    rw [WorkerCall.perform, Query.map_apply] at hget
    obtain ⟨r, w, hread, hfind⟩ | ⟨e, w, hread, hfind | ⟨e', hfind⟩⟩ := find?_cases m id s
    · rw [hfind] at hrun
      rw [hread] at hget
      change (m.summaries ids { s with world := w, pool := (s.pool.resolve r).2 }).andThen _ = _
        at hrun
      cases hrest : m.summaries ids { s with world := w, pool := (s.pool.resolve r).2 } with
      | waiting =>
        rw [hrest] at hrun
        exact absurd hrun (by simp [Act.andThen])
      | finished result v =>
        rw [hrest] at hrun
        cases result with
        | error e => exact absurd (Act.finished.inj hrun).1 (by simp)
        | ok rest =>
          obtain rfl := Except.ok.inj (Act.finished.inj hrun).1
          obtain rfl | hx := List.mem_cons.mp hx
          · exact ⟨id, r, s.world, w, d.refl _, hread, rfl⟩
          · obtain ⟨id', r', w', w'', hleads, hread', hid⟩ := ih hrest hx
            exact ⟨id', r', w', w'', d.trans hget hleads, hread', hid⟩
    · rw [hfind] at hrun
      rw [hread] at hget
      obtain ⟨id', r, w', w'', hleads, hread', hid⟩ := ih (s := { s with world := w }) hrun hx
      exact ⟨id', r, w', w'', d.trans hget hleads, hread', hid⟩
    · rw [hfind] at hrun
      exact absurd (Act.finished.inj hrun).1 (by simp)

/-- The workers that are listed come from records that were read. -/
lemma listWorkers_read (h : m.workers.Observes d) {xs : List WorkerSummary}
    (hrun : m.listWorkers s = .finished (.ok xs) u) {x : WorkerSummary} (hx : x ∈ xs) :
    ∃ id r w w', d.leads s.world w ∧ m.workers.get id w = (.ok r, w') ∧ x.id = r.id := by
  change (query m.workers.ids >>= _) s = _ at hrun
  have hlisted := h.perform .ids s.world
  rw [WorkerCall.perform, Query.map_apply] at hlisted
  rcases hids : m.workers.ids s.world with ⟨e | ids, w⟩
  · rw [State.query_bind_error hids] at hrun
    exact absurd (Act.finished.inj hrun).1 (by simp)
  · rw [State.query_bind_ok hids] at hrun
    rw [hids] at hlisted
    obtain ⟨id, r, w', w'', hleads, hread, hid⟩ :=
      summaries_read (s := { s with world := w }) h hrun hx
    exact ⟨id, r, w', w'', d.trans hlisted hleads, hread, hid⟩

end Manager

/-! ## Runs -/

section Faults

variable {config : Config} {c : Scheduler (Faulty Site)} {id : String}
  {n n' : Configuration (State (Faulty Site))}

namespace Scheduler

/-- What holds at any time in a run. -/
structure IsCalm (b : WorkerBackend) (id : String) (n : Configuration (State (Faulty Site))) :
    Prop where
  filed : b.IsFiled n.state.world.base
  unlisted : id ∉ n.state.world.dangling
  steady : n.IsSteady (b.fading (· ≠ id)).onBase.onWorld

/-- The steps in which no registration of a worker reaches the store. Outside of the scheduler
anything else may happen to the store, and the rules may change; what is registered is another
worker, or a rule lets the first call of the registration fail. -/
inductive Quiet (c : Scheduler (Faulty Site)) (b : WorkerBackend) (id : String) :
    Configuration (State (Faulty Site)) → Configuration (State (Faulty Site)) → Prop
  | idle {n : Configuration (State (Faulty Site))} {w : Faulty Site}
    (fades : (b.fading (· ≠ id)).onBase.leads n.state.world w) :
    Quiet c b id n { n with state := { n.state with world := w } }
  | start {n : Configuration (State (Faulty Site))} (a : Action) (sized : a.isSized = true)
    (refused : ∀ q, a = .register q → q.id = id →
      (FaultRule.apply .addWorker id n.state.world.rules).1 ≠ none) :
    Quiet c b id n (n.start (a.run c))
  | resume {n : Configuration (State (Faulty Site))} (i : Nat) (o : Http.Outcome) :
    Quiet c b id n (n.resume i o)

/-- What leads on leaves a run calm, if the operations that wait remain steady. -/
lemma IsCalm.later {b : WorkerBackend} {added : String → Prop} (h : IsCalm b id n)
    (hleads : (b.fading added).onBase.leads n.state.world n'.state.world)
    (hsteady : n'.IsSteady (b.fading (· ≠ id)).onBase.onWorld) : IsCalm b id n' where
  filed := h.filed.later hleads.1
  unlisted := by
    rw [hleads.2]
    exact h.unlisted
  steady := hsteady

section Steps

variable (hc : c.stores = (Site.stores config).withFaults)

include hc

/-- An action that does not register the worker brings nothing about under its id. -/
lemma observes_run {a : Action} (h : ∀ q, a = .register q → q.id ≠ id) :
    Operation.Observes (config.registry.fading (· ≠ id)).onBase.onWorld (a.run c) := by
  have hobserves := WorkerBackend.observes_closedTo (Site.workers_stores config) id
  rw [← Action.run_closedTo c h]
  refine Demand.observes_action (c := c.closedTo id) (WorkerStore.Observes.onWorld ?_).upholds a
    fun _ => Manager.chooses_onWorld
  show (c.stores.workers.closedTo id).Observes _
  rw [hc]
  exact hobserves

/-- A registration does not wait, and brings about nothing but the worker. -/
lemma run_register (q : Registration) (s : State (Faulty Site)) :
    ∃ r u, (Action.register q).run c s = .finished r u ∧
      (config.registry.fading fun _ => True).onBase.leads s.world u.world := by
  have hstore : c.stores.workers.Observes (config.registry.fading fun _ => True).onBase := by
    rw [hc]
    exact WorkerBackend.observes_fading (Site.workers_stores config)
  have hobserves := Demand.observes_action (c := c) hstore.onWorld.upholds (.register q)
    (fun _ => Manager.chooses_onWorld) s
  obtain ⟨r, u, hrun⟩ := c.manager.addWorker_finished q s
  have hregister : (Action.register q).run c s = .finished (r.map fun _ => ()) u := by
    show (c.manager.addWorker q >>= fun _ => pure ()) s = _
    rw [Operation.discard_apply, hrun]
    rfl
  rw [hregister] at hobserves ⊢
  exact ⟨_, u, rfl, hobserves⟩

/-- A registration that a rule lets fail at its first call changes nothing in the store.

**Proof sketch.** The first call fails before it reaches the store, and the registration ends with
it. -/
lemma fades_of_refused {added : String → Prop} (q : Registration)
    (n : Configuration (State (Faulty Site)))
    (hrefused : (FaultRule.apply .addWorker q.id n.state.world.rules).1 ≠ none) :
    (config.registry.fading added).onBase.leads n.state.world
      (n.start ((Action.register q).run c)).state.world := by
  obtain ⟨add, hadd⟩ : ∃ add, add = (Site.stores config).workers.add
    (.ofRegistration q (c.manager.now n.state.world)) := ⟨_, rfl⟩
  obtain ⟨e, he, hbase⟩ := Faulty.guarded_of_caught (q := add) hrefused
  have hdangling := Faulty.dangling_guarded .addWorker q.id add n.state.world
  have hrun : c.manager.addWorker q n.state = .finished (.error e)
      { n.state with world := (Faulty.guarded .addWorker q.id add n.state.world).2 } := by
    refine Manager.addWorker_of_refused ?_
    show c.stores.workers.add _ _ = _
    rw [hc, ← he, hadd]
    rfl
  have hstart : n.start ((Action.register q).run c) =
      ⟨{ n.state with world := (Faulty.guarded .addWorker q.id add n.state.world).2 },
        n.waiting⟩ := by
    show Configuration.enrol _ ((c.manager.addWorker q >>= fun _ => pure ()) n.state) = _
    rw [Operation.discard_apply, hrun]
    rfl
  rw [hstart]
  refine ⟨?_, hdangling⟩
  rw [hbase]
  exact (config.registry.fading added).refl _

/-- Every step keeps the invariant. -/
theorem IsCalm.start (h : IsCalm config.registry id n) (a : Action) :
    IsCalm config.registry id (n.start (a.run c)) := by
  by_cases hregister : ∃ q, a = .register q ∧ q.id = id
  · obtain ⟨q, rfl, -⟩ := hregister
    obtain ⟨r, u, hrun, hleads⟩ := run_register hc q n.state
    rw [Configuration.start, hrun]
    show IsCalm _ _ ⟨u, n.waiting⟩
    exact h.later hleads h.steady
  · have hobserves := observes_run hc fun q ha hid => hregister ⟨q, ha, hid⟩
    obtain ⟨hleads, hsteady⟩ := h.steady.enrol (fun _ hw => hw) (hobserves n.state)
    exact h.later hleads hsteady

omit hc in
/-- An operation that goes on brings nothing about under the id, whatever it waited for. -/
lemma IsCalm.resume {b : WorkerBackend} (h : IsCalm b id n) (i : Nat) (o : Http.Outcome) :
    (b.fading (· ≠ id)).onBase.leads n.state.world (n.resume i o).state.world ∧
      IsCalm b id (n.resume i o) := by
  obtain ⟨hleads, hsteady⟩ := h.steady.resume i o
  exact ⟨hleads, h.later hleads hsteady⟩

/-- A run that starts calm is calm wherever it gets to, also through registrations of the worker. -/
lemma IsCalm.of_reaches {s : State (Faulty Site)} (h : IsCalm config.registry id ⟨s, []⟩)
    (hn : c.Reaches (config.registry.fading fun _ => True).onBase.leads s n) :
    IsCalm config.registry id n := by
  induction hn with
  | refl => exact h
  | tail _ hstep ih =>
    cases hstep with
    | idle hidle =>
      obtain ⟨w, hleads, rfl⟩ := hidle
      exact ih.later hleads ih.steady
    | start hadmits =>
      obtain ⟨a, -, rfl⟩ := hadmits
      exact ih.start hc a
    | resume i o => exact (ih.resume i o).2

/-- **A step in which no registration of the worker reaches the store** brings nothing about under
its id. -/
theorem Quiet.fades (hn : c.Quiet config.registry id n n') (h : IsCalm config.registry id n) :
    (config.registry.fading (· ≠ id)).onBase.leads n.state.world n'.state.world ∧
      IsCalm config.registry id n' := by
  cases hn with
  | idle fades => exact ⟨fades, h.later fades h.steady⟩
  | resume i o => exact h.resume i o
  | start a sized refused =>
    refine ⟨?_, h.start hc a⟩
    by_cases hregister : ∃ q, a = .register q ∧ q.id = id
    · obtain ⟨q, rfl, rfl⟩ := hregister
      exact fades_of_refused hc q n (refused q rfl rfl)
    · have hobserves := observes_run hc fun q ha hid => hregister ⟨q, ha, hid⟩
      exact (h.steady.enrol (fun _ hw => hw) (hobserves n.state)).1

omit hc in
/-- Such a step is one of the steps of a run. -/
lemma Quiet.reaches {b : WorkerBackend} {s : State (Faulty Site)} (hn : c.Quiet b id n n')
    (h : c.Reaches (b.fading fun _ => True).onBase.leads s n) :
    c.Reaches (b.fading fun _ => True).onBase.leads s n' := by
  cases hn with
  | idle fades =>
    have hbase := WorkerBackend.fading_mono (fun _ _ => trivial) fades.1
    exact .tail h (.idle ⟨_, ⟨hbase, fades.2⟩, rfl⟩)
  | start a sized => exact h.start a sized
  | resume i o => exact h.resume i o

/-- **A run in which no registration of the worker reaches the store** brings nothing about under
its id either. -/
theorem fades_of_quiet (h : IsCalm config.registry id n)
    (hlater : Relation.ReflTransGen (c.Quiet config.registry id) n n') :
    (config.registry.fading (· ≠ id)).onBase.leads n.state.world n'.state.world ∧
      IsCalm config.registry id n' := by
  induction hlater with
  | refl => exact ⟨(config.registry.fading _).onBase.refl _, h⟩
  | tail _ hstep ih =>
    obtain ⟨hleads, hcalm⟩ := ih
    obtain ⟨hleads', hcalm'⟩ := hstep.fades hc hcalm
    exact ⟨(config.registry.fading _).onBase.trans hleads hleads', hcalm'⟩

omit hc in
/-- What follows a run without registrations of the worker continues the run. -/
lemma reaches_of_quiet {b : WorkerBackend} {s : State (Faulty Site)}
    (h : c.Reaches (b.fading fun _ => True).onBase.leads s n)
    (hlater : Relation.ReflTransGen (c.Quiet b id) n n') :
    c.Reaches (b.fading fun _ => True).onBase.leads s n' := by
  induction hlater with
  | refl => exact h
  | tail _ hstep ih => exact hstep.reaches ih

/-- The record of a worker that is absent is not read. -/
lemma IsCalm.get_ne_ok (h : IsCalm config.registry id n)
    (hgone : config.registry.live? n.state.world.base id = none) (r : WorkerRecord) :
    (c.stores.workers.get id n.state.world).1 ≠ .ok r := by
  intro hget
  rw [hc] at hget
  obtain ⟨hlive, -⟩ := WorkerBackend.live?_of_get_withFaults (Site.workers_stores config)
    h.filed.1 (Prod.ext hget rfl)
  rw [hgone] at hlive
  exact absurd hlive (by simp)

/-- What is read while the worker is absent is not about it. -/
lemma IsCalm.id_ne_of_get (h : IsCalm config.registry id n)
    (hgone : config.registry.live? n.state.world.base id = none) {w w' : Faulty Site}
    (hleads : (config.registry.fading (· ≠ id)).onBase.leads n.state.world w) {id' : String}
    {r : WorkerRecord} (hget : c.stores.workers.get id' w = (.ok r, w')) : r.id ≠ id := by
  have hfiled := h.filed.later hleads.1
  have hstill := WorkerBackend.live?_of_fading hleads.1 h.filed.1 (by simp) hgone
  rw [hc] at hget
  obtain ⟨hlive, -⟩ :=
    WorkerBackend.live?_of_get_withFaults (Site.workers_stores config) hfiled.1 hget
  rintro rfl
  rw [hfiled.2 id' r hlive, hlive] at hstill
  exact absurd hstill (by simp)

/-- What is listed while the worker is absent is not its id. -/
lemma IsCalm.notMem_of_ids (h : IsCalm config.registry id n)
    (hgone : config.registry.live? n.state.world.base id = none) {ids : List String}
    (hids : (c.stores.workers.ids n.state.world).1 = .ok ids) : id ∉ ids := by
  intro hmem
  rw [hc] at hids
  have hlive := WorkerBackend.live?_of_ids_withFaults (Site.workers_stores config) h.filed.1
    h.unlisted (Prod.ext hids rfl) hmem
  rw [hgone] at hlive
  exact absurd hlive (by simp)

/-- **A worker that is taken out of the store is absent**, whether a client or a sweep does so.

**Proof sketch.** A withdrawal that succeeds has called the store, which no rule prevented, and the
store holds no record after a removal. -/
theorem absent_of_withdraw {s u : State (Faulty Site)}
    (hs : config.registry.IsSound s.world.base)
    (hrun : c.manager.withdraw id s = .finished (.ok ()) u) :
    config.registry.live? u.world.base id = none := by
  change (query (c.stores.workers.remove id) >>= _) s = _ at hrun
  rcases hanswer : c.stores.workers.remove id s.world with ⟨e | ⟨⟩, w⟩
  · rw [State.query_bind_error hanswer] at hrun
    exact absurd (Act.finished.inj hrun).1 (by simp)
  · rw [State.query_bind_ok hanswer] at hrun
    obtain rfl := (Act.finished.inj hrun).2
    rw [hc] at hanswer
    have hguarded : Faulty.guarded .removeWorker id ((Site.stores config).workers.remove id)
      s.world = (.ok (), w) := hanswer
    obtain ⟨e, he, -⟩ | ⟨-, hbase⟩ :=
      Faulty.guarded_cases .removeWorker id ((Site.stores config).workers.remove id) s.world
    · rw [hguarded] at he
      exact absurd he (by simp)
    · rw [hguarded, Site.workers_stores] at hbase
      show config.registry.live? w.base id = none
      rw [hbase]
      exact WorkerBackend.live?_of_remove hs id

end Steps

end Scheduler

/-- **A worker that is absent stays so until it is registered.** Let nothing be kept under an id in
some state of a run, for whatever reason: the worker was removed by a client, evicted by a sweep, or
silent until its record ran out. Whatever happens from then on, in any order and with calls that
fail or operations that wait in between, the worker is not there until a registration of it reaches
the store: it is neither listed nor read, nothing is told about it, and it is not selected. In
particular a sweep that was waiting for its answer when it was removed does not bring it back.

**Proof sketch.** No step without such a registration brings anything about under the id, whoever
makes it, since the manager does the same with the closed store. What is read later is a record of
the id that was asked for. -/
theorem absent_until_registered (hc : c.stores = (Site.stores config).withFaults)
    {s : State (Faulty Site)} (hs : config.registry.IsFiled s.world.base) (hpool : s.pool.IsKeyed)
    (hid : id ∉ s.world.dangling)
    (hn : c.Reaches (config.registry.fading fun _ => True).onBase.leads s n)
    (hgone : config.registry.live? n.state.world.base id = none)
    (hlater : Relation.ReflTransGen (c.Quiet config.registry id) n n') :
    config.registry.live? n'.state.world.base id = none ∧
      (∀ ids, (c.stores.workers.ids n'.state.world).1 = .ok ids → id ∉ ids) ∧
      (∀ r, (c.stores.workers.get id n'.state.world).1 ≠ .ok r) ∧
      (∀ k u, c.manager.getWorker id n'.state ≠ .finished (.ok k) u) ∧
      (∀ xs u, c.manager.listWorkers n'.state = .finished (.ok xs) u → ∀ x ∈ xs, x.id ≠ id) ∧
      ∀ k u, c.manager.selectWorker n'.state = .finished (.ok (some k)) u →
        (u.pool.contact k).id ≠ id := by
  have hcalm : Scheduler.IsCalm config.registry id n :=
    .of_reaches hc ⟨hs, hid, fun w hw => absurd hw (by simp)⟩ hn
  obtain ⟨hleads, hcalm'⟩ := Scheduler.fades_of_quiet hc hcalm hlater
  have hgone' : config.registry.live? n'.state.world.base id = none :=
    WorkerBackend.live?_of_fading hleads.1 hcalm.filed.1 (by simp) hgone
  -- a listing or a selection adds nobody, so it is the same with a store closed to the worker
  have hobserves : (c.manager.closedTo id).workers.Observes
      (config.registry.fading (· ≠ id)).onBase := by
    show (c.stores.workers.closedTo id).Observes _
    rw [hc]
    exact WorkerBackend.observes_closedTo (Site.workers_stores config) id
  have hkeyed : n'.state.pool.IsKeyed :=
    Manager.isKeyed_of_leads ((Scheduler.reaches_of_quiet hn hlater).leads hpool) hpool
  have hread : ∀ {w w' : Faulty Site} {id' : String} {r : WorkerRecord},
      (config.registry.fading (· ≠ id)).onBase.leads n'.state.world w →
      (c.manager.closedTo id).workers.get id' w = (.ok r, w') → r.id ≠ id :=
    fun hleads hanswer => hcalm'.id_ne_of_get hc hgone' hleads hanswer
  refine ⟨hgone', fun ids hids => hcalm'.notMem_of_ids hc hgone' hids, hcalm'.get_ne_ok hc hgone',
    fun k u hrun => ?_, fun xs u hrun x hx => ?_, fun k u hrun => ?_⟩
  · change (query (c.stores.workers.get id) >>= _) n'.state = _ at hrun
    rcases hanswer : c.stores.workers.get id n'.state.world with ⟨e | r, w⟩
    · rw [State.query_bind_error hanswer] at hrun
      exact absurd (Act.finished.inj hrun).1 (by simp)
    · exact hcalm'.get_ne_ok hc hgone' r (by rw [hanswer])
  · rw [← Manager.listWorkers_closedTo _ id] at hrun
    obtain ⟨id', r, w, w', hleads, hanswer, heq⟩ := Manager.listWorkers_read hobserves hrun hx
    rw [heq]
    exact hread hleads hanswer
  · rw [← Manager.selectWorker_closedTo _ id] at hrun
    obtain ⟨ids, id', r, w, -, -, hleads, hanswer, hcontact⟩ :=
      Manager.selectWorker_reads hobserves hkeyed hrun
    rw [hcontact]
    exact hread hleads hanswer

/-- A worker that has registered is asked how it is, and is removed in the meantime. -/
def Scheduler.interrupted : Configuration (State (Faulty Site)) :=
  let run := Scheduler.Action.run (Scheduler.basic false)
  (((⟨Scheduler.initialFaulty, []⟩ : Configuration (State (Faulty Site))).start
    (run (.register ⟨"w", "a:1", 3⟩))).start (run .sweep)).start (run (.deregister "w"))

/-- The world a second after that. -/
def Scheduler.aged : Faulty Site :=
  let w := Scheduler.interrupted.state.world
  { w with base := w.base.at ⟨.epoch, .ofSeconds 1⟩ }

/-- Then its answer comes in. -/
def Scheduler.answered : Configuration (State (Faulty Site)) :=
  Configuration.resume { Scheduler.interrupted with
    state := { Scheduler.interrupted.state with world := Scheduler.aged } } 0 Scheduler.wellAnswer

/-- A run gets to the state in which the worker is gone and a sweep still waits for it. -/
lemma Scheduler.reaches_interrupted {idle : Faulty Site → Faulty Site → Prop} :
    (Scheduler.basic false).Reaches idle Scheduler.initialFaulty Scheduler.interrupted :=
  ((Reaches.refl.start (.register ⟨"w", "a:1", 3⟩) rfl).start .sweep rfl).start
    (.deregister "w") rfl

/-- From there a second passes and the answer comes in, without a registration. -/
lemma Scheduler.quiet_answered : Relation.ReflTransGen
    ((Scheduler.basic false).Quiet (Config.registry {}) "w") Scheduler.interrupted
      Scheduler.answered := by
  have haged : ((Config.registry {}).fading (· ≠ "w")).onBase.leads
      Scheduler.interrupted.state.world Scheduler.aged :=
    ⟨WorkerBackend.fading_at (by decide +kernel) (by decide +kernel), rfl⟩
  exact .tail (.tail .refl (.idle haged)) (.resume 0 Scheduler.wellAnswer)

/-- A worker that is removed while it is asked how it is stays removed, although it is well. -/
theorem absent_until_registered_in_sweep :
    (Config.registry {}).IsFiled Scheduler.initialFaulty.world.base ∧
      Scheduler.initialFaulty.pool.IsKeyed ∧ "w" ∉ Scheduler.initialFaulty.world.dangling ∧
      (Config.registry {}).live? Scheduler.interrupted.state.world.base "w" = none ∧
      Scheduler.interrupted.waiting.length = 1 ∧ Scheduler.answered.waiting.length = 0 ∧
      .checked ⟨0, "w", "a:1"⟩ true ∈ Scheduler.answered.state.journal ∧
      (Config.registry {}).live? Scheduler.answered.state.world.base "w" = none ∧
      ∀ r, ((Scheduler.basic false).stores.workers.get "w"
        Scheduler.answered.state.world).1 ≠ .ok r := by
  have hfiled : (Config.registry {}).IsFiled Scheduler.initialFaulty.world.base :=
    WorkerBackend.isFiled_of_isVacant rfl
  have hgone : (Config.registry {}).live? Scheduler.interrupted.state.world.base "w" = none := by
    decide +kernel
  obtain ⟨hstill, -, hget, -⟩ := absent_until_registered (c := .basic false)
    (show (Scheduler.basic false).stores = (Site.stores {}).withFaults from rfl) hfiled
    Pool.isKeyed_empty (by decide) Scheduler.reaches_interrupted hgone Scheduler.quiet_answered
  exact ⟨hfiled, Pool.isKeyed_empty, by decide, hgone, by decide +kernel, by decide +kernel,
    by decide +kernel, hstill, hget⟩

end Faults

end ConversionScheduler
