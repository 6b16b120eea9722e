import ConversionScheduler.Proofs.Evictions
import ConversionScheduler.Proofs.LiveRecords
import ConversionScheduler.Proofs.TaskStages
/-!
# What can come of demands

Whatever is asked of a scheduler, it does nothing about its workers but moves. Between these it
writes about tasks, and at the end it closes its stores; for the workers, that is something that
happens outside. So a store of workers remains one, and each worker's cached proxy remains one for
that worker, whatever has been demanded and however the operations took turns.

## Main definitions

* `Scheduler.Demand.isSized` — the weights of workers that register have 32 bits.
* `Scheduler.Runs` — what can come of any demands that take turns.
* `Stores.Within` — what is done besides the calls about workers is allowed outside.

## Main results

* `Scheduler.Demand.follows` — every demand makes moves.
* `Scheduler.Runs.leads` — so does every run.
* `Scheduler.Runs.isKeyed`, `Scheduler.Runs.isGood` — what is left of the pool and of the store.
-/

namespace ConversionScheduler

open Manager (State)
open Manager.State (query count)

/-- Whether the calls about tasks, and the ends of both stores, are among the changes of the world
that are allowed. -/
structure Stores.Within {ω : Type} (stores : Stores ω) (idle : ω → ω → Prop) : Prop where
  tasks : ∀ (call : TaskCall) (w : ω), idle w (call.perform stores.tasks w).2
  closeWorkers : ∀ w, idle w (stores.workers.close w).2
  closeTasks : ∀ w, idle w (stores.tasks.close w).2

namespace Scheduler

variable {ω : Type} {c : Scheduler ω} {idle : ω → ω → Prop} {s : State ω}

/-- Whether the weight of a worker that registers has 32 bits. -/
def Demand.isSized : Demand → Bool
  | manage a => a.isSized
  | submit _ | poll _ | stop => true

/-- What can come of a state when demands come in any order and take turns in any way, while outside
of them the world may change as `idle` says. -/
def Runs (c : Scheduler ω) (idle : ω → ω → Prop) : State ω → Configuration (State ω) → Prop :=
  Configuration.Reachable (fun s t => ∃ w, idle s.world w ∧ t = { s with world := w })
    fun x => ∃ d : Demand, d.isSized = true ∧ x = d.run c

/-! ## Every demand makes moves -/

/-- The conduct in which only moves are made. -/
abbrev conduct (c : Scheduler ω) (idle : ω → ω → Prop) : Conduct (State ω) :=
  Manager.conduct c.manager idle

/-- A call of a store is a move if its change of the world is one of those allowed. -/
lemma follows_query {α : Type} {q : Query ω α} (hq : ∀ w, idle w (q w).2) :
    (query q s).Follows (c.conduct idle) (fun _ _ => True) s := by
  have hworld := hq s.world
  rcases h : q s.world with ⟨r, w⟩
  rw [h] at hworld
  rw [Manager.State.query_eq h]
  exact ⟨Manager.leads_of_move (.idle hworld), trivial⟩

section Follows

variable (h : c.stores.Within idle)

include h

/-- Writing the record of a new task is a move: the tasks may change. -/
lemma follows_add (t : Task) :
    (query (c.stores.tasks.add t) s).Follows (c.conduct idle) (fun _ _ => True) s :=
  follows_query fun w => by simpa only [TaskCall.perform, Query.map_apply] using h.tasks (.add t) w

/-- Reading the record of a task is a move. -/
lemma follows_get (id : String) :
    (query (c.stores.tasks.get id) s).Follows (c.conduct idle) (fun _ _ => True) s :=
  follows_query fun w => by simpa only [TaskCall.perform, Query.map_apply] using h.tasks (.get id) w

/-- Writing the record of a task again is a move. -/
lemma follows_update (t : Task) :
    (query (c.stores.tasks.update t) s).Follows (c.conduct idle) (fun _ _ => True) s :=
  follows_query fun w => by
    simpa only [TaskCall.perform, Query.map_apply] using h.tasks (.update t) w

/-- Deleting the record of a task is a move. -/
lemma follows_remove (id : String) :
    (query (c.stores.tasks.remove id) s).Follows (c.conduct idle) (fun _ _ => True) s :=
  follows_query fun w => by
    simpa only [TaskCall.perform, Query.map_apply] using h.tasks (.remove id) w

/-- The record of a submission that failed is deleted, if the settings want it, and whether or not
that works. -/
lemma follows_rollBack (id : String) :
    (c.rollBack id s).Follows (c.conduct idle) (fun _ _ => True) s := by
  unfold rollBack
  split
  · have hremove : ((query (c.stores.tasks.remove id)).attempt s).Follows (c.conduct idle)
        (fun _ _ => True) s :=
      Operation.follows_attempt (follows_remove h id) (fun _ _ _ => trivial) (fun _ _ _ => trivial)
        fun _ _ => trivial
    exact Operation.follows_bind hremove (fun _ _ _ _ => ⟨.refl, trivial⟩) fun _ _ _ => trivial
  · exact ⟨.refl, trivial⟩

/-- A submission makes moves. -/
lemma follows_schedule (task : Task) (hs : s.pool.IsKeyed) :
    (c.schedule task s).Follows (c.conduct idle) (fun _ _ => True) s := by
  refine Operation.follows_bind (follows_add h task) (fun _ t ht _ => ?_) fun _ _ _ => trivial
  have hexecute : ((c.execute task).attempt t).Follows (c.conduct idle) (fun _ _ => True) t :=
    Operation.follows_attempt (Action.follows_execute task (Manager.isKeyed_of_leads ht hs))
      (fun _ _ _ => trivial) (fun _ _ _ => trivial) fun _ _ => trivial
  refine Operation.follows_bind hexecute (fun r u _ _ => ?_) fun _ _ _ => trivial
  cases r with
  | ok assigned =>
    exact Operation.follows_bind (follows_update h assigned) (fun _ _ _ _ => ⟨.refl, trivial⟩)
      fun _ _ _ => trivial
  | error e =>
    refine Operation.follows_bind (x := count _) (p := fun _ _ => True) ⟨.refl, trivial⟩
      (fun _ v _ _ => ?_) fun _ _ _ => trivial
    exact Operation.follows_bind (follows_rollBack h task.id) (fun _ _ _ _ => ⟨.refl, trivial⟩)
      fun _ _ _ => trivial

/-- So does asking for a task. -/
lemma follows_status (id : String) (hs : s.pool.IsKeyed) :
    (c.status id s).Follows (c.conduct idle) (fun _ _ => True) s := by
  refine Operation.follows_bind (follows_get h id) (fun task t ht _ => ?_) fun _ _ _ => trivial
  cases task.assignment with
  | none => exact ⟨.refl, trivial⟩
  | some a =>
    refine Operation.follows_bind
      (Action.follows_remoteStatus a.remoteId a.workerId (Manager.isKeyed_of_leads ht hs))
      (fun report u _ _ => ?_) fun _ _ _ => trivial
    dsimp only
    split
    · exact Operation.follows_bind (follows_remove h id) (fun _ _ _ _ => ⟨.refl, trivial⟩)
        fun _ _ _ => trivial
    · exact ⟨.refl, trivial⟩

/-- **Every demand makes moves.** -/
theorem Demand.follows (d : Demand) (hd : d.isSized = true) (hs : s.pool.IsKeyed) :
    (d.run c s).Follows (c.conduct idle) (fun _ _ => True) s := by
  cases d with
  | submit task => exact Operation.follows_discard (follows_schedule h task hs)
  | poll id => exact Operation.follows_discard (follows_status h id hs)
  | manage a => exact a.follows hd hs
  | stop =>
    have hclose : (c.manager.close s).Follows (c.conduct idle) (fun _ _ => True) s :=
      Operation.follows_bind (p := fun _ _ => True) ⟨.refl, trivial⟩
        (fun _ _ _ _ => follows_query h.closeWorkers) fun _ _ _ => trivial
    exact Operation.follows_bind hclose (fun _ _ _ _ => follows_query h.closeTasks)
      fun _ _ _ => trivial

end Follows

namespace Runs

variable {n : Configuration (State ω)}

/-- **Nothing but moves is ever made**, whatever has been demanded. -/
theorem leads (h : c.Runs idle s n) (hwithin : c.stores.Within idle) (hs : s.pool.IsKeyed) :
    (c.conduct idle).leads s n.state := by
  refine Configuration.Reachable.leads (fun t u htu => ?_) (fun x hx t ht => ?_) h
  · obtain ⟨w, hw, rfl⟩ := htu
    exact Manager.leads_of_move (.idle hw)
  · obtain ⟨d, hd, rfl⟩ := hx
    exact d.follows hwithin hd (Manager.isKeyed_of_leads ht hs)

/-- Each worker's cached proxy is one for that worker. -/
theorem isKeyed (h : c.Runs idle s n) (hwithin : c.stores.Within idle) (hs : s.pool = .empty) :
    n.state.pool.IsKeyed := by
  have hkeyed : s.pool.IsKeyed := hs ▸ Pool.isKeyed_empty
  exact Manager.isKeyed_of_leads (h.leads hwithin hkeyed) hkeyed

end Runs

end Scheduler

/-! ## Stores that remain good -/

section Stores

variable {config : Config}

/-- The end of a store of workers leaves one, in memory an empty one. -/
lemma WorkerBackend.isGood_close {b : WorkerBackend} {s : Site} (h : b.IsGood s) :
    b.IsGood (b.store.close s).2 := by
  obtain ⟨m, hholds, hkeyed, hdeadline⟩ := h
  cases b with
  | memory ttl =>
    exact ⟨.empty, MemoryWorkers.holds_empty ttl rfl, Registry.isKeyed_empty _ _, hdeadline⟩
  | redis w => exact ⟨m, hholds, hkeyed, hdeadline⟩

/-- At the end of the store of the tasks nothing happens. -/
lemma Site.close_tasks (config : Config) (s : Site) :
    ((Site.stores config).tasks.close s).2 = s := by
  rw [Site.tasks_stores]
  cases config.tasks <;> rfl

/-- Whether a change of the world leaves a store of workers, if there was one. -/
def Config.Preserves (config : Config) (w w' : Faulty Site) : Prop :=
  config.registry.IsGood w.base → config.registry.IsGood w'.base

/-- Neither the calls about tasks nor the end of the stores does any harm to the workers.

**Proof sketch.** A rule makes a call fail without touching the store. A call about tasks leaves the
registry and the clock, and so does closing a store. -/
lemma Site.within_preserves (config : Config) :
    (Site.stores config).withFaults.Within config.Preserves where
  tasks call w hw := by
    obtain ⟨hbase, -⟩ | ⟨hbase, -⟩ := call.perform_withFaults (Site.stores config) w
    · rw [hbase]
      exact hw
    · obtain ⟨m, hholds, hkeyed, hdeadline⟩ := hw
      obtain ⟨hholds', hclock⟩ := Site.holds_tasks config call hholds
      rw [hbase]
      exact ⟨m, hholds', hclock ▸ hkeyed, hclock ▸ hdeadline⟩
  closeWorkers w hw := by
    obtain ⟨-, -, hbase⟩ | ⟨-, hbase⟩ :=
      Faulty.guarded_cases .closeWorkers "" (Site.stores config).workers.close w
    · rw [show ((Site.stores config).withFaults.workers.close w).2.base = w.base from hbase]
      exact hw
    · rw [show ((Site.stores config).withFaults.workers.close w).2.base = _ from hbase,
        Site.workers_stores]
      exact WorkerBackend.isGood_close hw
  closeTasks w hw := by
    obtain ⟨-, -, hbase⟩ | ⟨-, hbase⟩ :=
      Faulty.guarded_cases .closeTasks "" (Site.stores config).tasks.close w
    · rw [show ((Site.stores config).withFaults.tasks.close w).2.base = w.base from hbase]
      exact hw
    · rw [show ((Site.stores config).withFaults.tasks.close w).2.base = _ from hbase,
        Site.close_tasks]
      exact hw

variable {c : Scheduler (Faulty Site)} {s : State (Faulty Site)}
  {n : Configuration (State (Faulty Site))}

/-- **The store of the workers remains one**, whatever has been demanded and whichever calls have
failed. -/
theorem Scheduler.Runs.isGood (hb : config.registry.IsValid)
    (hc : c.stores = (Site.stores config).withFaults) (hpool : s.pool = .empty)
    (hjournal : s.journal = []) (hs : config.registry.IsGood s.world.base)
    (h : c.Runs config.Preserves s n) : config.registry.IsGood n.state.world.base := by
  have hstore : c.stores.workers.KeepsIds fun w => config.registry.IsGood w.base := by
    rw [hc]
    refine WorkerStore.KeepsIds.withFaults ?_
    rw [Site.workers_stores]
    exact WorkerBackend.keepsIds hb
  have hstart : s.ledger.IsCounted c.manager fun w => config.registry.IsGood w.base := by
    rw [State.ledger, hpool, hjournal]
    exact .start hs
  have hleads := h.leads (hc ▸ Site.within_preserves config) hstart.keyed
  exact (Manager.keeps_of_leads (fun _ _ hmove => hmove.counted hstore fun _ _ hidle => hidle)
    hleads hstart).world

end Stores

end ConversionScheduler
