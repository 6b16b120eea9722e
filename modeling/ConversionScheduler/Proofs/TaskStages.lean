import ConversionScheduler.Proofs.Sessions
import ConversionScheduler.Proofs.Submissions
/-!
# Where a task's record stands

In a session of a scheduler in which every task is submitted once, and without an assignment, the
record under an id takes one way only: it is written when the task is submitted; then the worker
that takes the task is added to it, or it is removed since nobody took the task; and an assigned
record is removed when a worker has reported the end of the task. Where a record stands on this way
says which operations can be waiting on account of it.

## Main definitions

* `TaskView.kept?` — what is kept under an id.
* `Scheduler.Demand`, `Scheduler.conditions` — what can be asked of a scheduler, and when.
* `Scheduler.Change` — the changes in the life of a record.
* `Scheduler.Stage` — where the record under an id stands.

## Main results

* `Scheduler.Demand.observes_action` — what is done about workers leaves the tasks alone.
* `Scheduler.Stage.of_unknown`, `Scheduler.Stage.of_submit`, `Scheduler.Stage.of_poll` — what the
  operations that wait tell about the record.
* `Scheduler.Stage.asked` — whoever reads an assignment is one more to ask the worker.
-/

namespace ConversionScheduler

open Manager (State)

/-! ## What is kept under an id -/

namespace TaskView

variable {ω : Type} {v : TaskView ω} {w w' : ω} {id : String}

/-- What is kept under an id. -/
def kept? (v : TaskView ω) (w : ω) (id : String) : Option TaskEntry :=
  (v.contents? w).bind fun m => m id

/-- Whether a record is read again with all of its fields, except for the free-form data maybe. -/
def IsFaithful (v : TaskView ω) : Prop :=
  ∀ r r', (v.entry r).record? r.id = .ok r' → r' = { r with userDef := r'.userDef }

/-- What leaves the contents alone leaves what is kept under each id. -/
lemma kept?_of_same (h : v.contents? w' = v.contents? w) : v.kept? w' = v.kept? w := by
  funext id
  rw [kept?, kept?, h]

/-- A write changes what is kept under one id. -/
lemma kept?_of_write {m : TaskContents} {e : Option TaskEntry} (h : v.contents? w = some m)
    (h' : v.contents? w' = some (Function.update m id e)) (id' : String) :
    v.kept? w' id' = if id' = id then e else v.kept? w id' := by
  rw [kept?, kept?, h, h']
  exact Function.update_apply m id e id'

/-- What is read under an id is kept there. -/
lemma kept?_of_reads {r : TaskRecord} (h : v.Reads w id r) :
    ∃ e, v.kept? w id = some e ∧ e.record? id = .ok r := by
  obtain ⟨m, hm, hload⟩ := h
  unfold TaskContents.load at hload
  cases he : m id with
  | none =>
    rw [he] at hload
    exact absurd hload (by simp)
  | some e =>
    rw [he] at hload
    exact ⟨e, by rw [kept?, hm]; exact he, hload⟩

end TaskView

/-- Whether an entry names a worker, or the id that a worker knows the task by. -/
def TaskEntry.IsAssigned (e : TaskEntry) (id : String) : Prop :=
  ∃ r, e.record? id = .ok r ∧ (r.workerId ≠ none ∨ r.workerTaskId ≠ none)

namespace Scheduler

variable {ω : Type} {c : Scheduler ω} {v : TaskView ω}

/-! ## What can be asked of a scheduler -/

/-- Whether a worker is selected in an action. -/
def Action.selects : Action → Bool
  | select | execute _ => true
  | _ => false

/-- What can be asked of a scheduler. -/
inductive Demand
  | submit (t : Task)
  | poll (id : String)
  | manage (a : Action)
  | stop

namespace Demand

/-- What is done about a demand, without what it brings. -/
def run (c : Scheduler ω) : Demand → Operation (State ω) Unit
  | submit t => do let _ ← c.schedule t
  | poll id => do let _ ← c.status id
  | manage a => a.run c
  | stop => c.stop

/-- The id of the task that a demand is about. -/
def subject? : Demand → Option String
  | submit t => some t.id
  | poll id => some id
  | manage _ | stop => none

/-- **What is done about workers observes what the manager's steps observe**, and leaves the tasks
alone, for instance. -/
theorem observes_action {e : Conduct (State ω)} (h : c.manager.Upholds e) (a : Action)
    (hchoice : a.selects = true → Manager.Chooses e) : Operation.Observes e (a.run c) := by
  have hdiscard : ∀ {β : Type} {x : Operation (State ω) β}, Operation.Observes e x →
      Operation.Observes e (x >>= fun _ => pure ()) :=
    fun hx => hx.bind fun _ => Operation.observes_pure ()
  cases a with
  | register r => exact hdiscard (Manager.observes_addWorker h r)
  | deregister id => exact Manager.observes_removeWorker h id
  | heartbeat id => exact hdiscard (Manager.observes_heartbeat h id)
  | select => exact hdiscard (Manager.observes_selectWorker h (hchoice rfl))
  | find id => exact hdiscard (Manager.observes_getWorker h id)
  | list => exact hdiscard (Manager.observes_listWorkers h)
  | sweep => exact hdiscard (Manager.observes_sweep h)
  | execute t => exact hdiscard (observes_execute h (hchoice rfl) t)
  | ask remoteId workerId => exact hdiscard (observes_remoteStatus h remoteId workerId)

/-- The end of a scheduler leaves the tasks alone. -/
lemma observes_stop (h : c.stores.KeepTasks v) :
    Operation.Observes v.sparing.onWorld c.stop :=
  (Manager.observes_close (m := c.manager) h.workers.onWorld.upholds).bind fun _ =>
    Manager.State.observes_query h.close

end Demand

/-- Whether a record was there at the start, or a task was submitted, under an id. -/
def IsKnown (v : TaskView ω) (start : ω) (history : List (Occurrence Demand (State ω)))
    (id : String) : Prop :=
  v.kept? start id ≠ none ∨ ∃ t, Occurrence.demanded (.submit t) ∈ history ∧ t.id = id

/-- Each task is submitted once, and without an assignment. Outside of the scheduler anything may
happen that leaves the tasks alone. -/
def conditions (c : Scheduler ω) (v : TaskView ω) (start : ω) : Conditions Demand (State ω) where
  run := Demand.run c
  admits history x := ∀ t, x = .submit t → t.assignment = none ∧ ¬ IsKnown v start history t.id
  idle s s' := v.sparing.leads s.world s'.world

/-! ## The life of a record -/

/-- The changes in the life of the record under an id: what happened, and what is kept under the id
before and after it. -/
inductive Change (c : Scheduler ω) (v : TaskView ω) (id : String) :
    Occurrence Demand (State ω) → Option TaskEntry → Option TaskEntry → Prop
  | kept {what : Occurrence Demand (State ω)} {e : Option TaskEntry} : Change c v id what e e
  /-- A task was submitted. -/
  | written {t : Task} {now : Timestamp} (subject : t.id = id) (unassigned : t.assignment = none) :
    Change c v id (.demanded (.submit t)) none (some (v.entry (t.toRecord now)))
  /-- A worker took the task. -/
  | taken {p : Paused Demand (State ω)} {o : Http.Outcome} {t : Task} {a : Assignment}
    {now now' created : Timestamp} (demand : p.demand = .submit t) (subject : t.id = id)
    (unassigned : t.assignment = none) (remote : a.remoteId ≠ "")
    (taken : p.request.taken? o = .ok a.remoteId) :
    Change c v id (.answered p o) (some (v.entry (t.toRecord now)))
      (some (v.entry { Task.toRecord { t with assignment := some a } now' with
        createdAt := created }))
  /-- Nobody took the task. -/
  | rolledBack {p : Paused Demand (State ω)} {o : Http.Outcome} {t : Task} {now : Timestamp}
    (demand : p.demand = .submit t) (subject : t.id = id) (unassigned : t.assignment = none)
    (asked : c.rollback = true) (untaken : ¬ p.request.IsTaken o) :
    Change c v id (.answered p o) (some (v.entry (t.toRecord now))) none
  /-- The worker of the task reported its end. -/
  | ended {p : Paused Demand (State ω)} {o : Http.Outcome} {e : TaskEntry} {w : ω} {r : TaskRecord}
    {a : Assignment} {report : WorkerReport} (demand : p.demand = .poll id)
    (read : e.record? id = .ok r) (asks : c.Asks v id w r a p.request p.since.world)
    (said : p.request.report? o = .ok report) (ended : report.state.isTerminal = true) :
    Change c v id (.answered p o) (some e) none

/-- Where the record under an id stands: what is kept, and which operations that are about it wait
for an answer. Once it is `settled`, the record `e₀` is all that will ever be kept under the id, and
those who are asking its worker have read it. -/
inductive Stage (c : Scheduler ω) (v : TaskView ω) (id : String) (known : Prop) :
    Option TaskEntry → List (Paused Demand (State ω)) → Prop
  | fresh (unknown : ¬ known) : Stage c v id known none []
  | offered {p : Paused Demand (State ω)} {t : Task} {now : Timestamp} (hknown : known)
    (demand : p.demand = .submit t) (subject : t.id = id) (unassigned : t.assignment = none) :
    Stage c v id known (some (v.entry (t.toRecord now))) [p]
  | settled {e₀ : TaskEntry} {e : Option TaskEntry} {ps : List (Paused Demand (State ω))}
    (hknown : known) (held : e = some e₀ ∨ e = none)
    (polled : ∀ p ∈ ps, p.demand = .poll id ∧ ∃ w r a,
      c.Asks v id w r a p.request p.since.world ∧ e₀.record? id = .ok r) :
    Stage c v id known e ps

namespace Stage

variable {id : String} {known : Prop} {e e' : Option TaskEntry}
  {ps ps' : List (Paused Demand (State ω))} {p : Paused Demand (State ω)}

/-- Nothing is kept under an id that was never used. -/
lemma of_unknown (h : c.Stage v id known e ps) (hknown : ¬ known) : e = none ∧ ps = [] := by
  cases h with
  | fresh => exact ⟨rfl, rfl⟩
  | offered hk => exact absurd hk hknown
  | settled hk => exact absurd hk hknown

/-- While a task is being offered, its record is the one that was written first, and nobody else is
waiting on account of it. -/
lemma of_submit (h : c.Stage v id known e ps) (hp : p ∈ ps) {t : Task}
    (hdemand : p.demand = .submit t) :
    known ∧ t.id = id ∧ t.assignment = none ∧ ps = [p] ∧
      ∃ now, e = some (v.entry (t.toRecord now)) := by
  cases h with
  | fresh => exact absurd hp (by simp)
  | offered known demand subject unassigned =>
    obtain rfl := List.mem_singleton.mp hp
    obtain rfl := Demand.submit.inj (demand.symm.trans hdemand)
    exact ⟨known, subject, unassigned, rfl, _, rfl⟩
  | settled known held polled => exact absurd ((polled p hp).1.symm.trans hdemand) (by simp)

/-- Those who are asking the worker of a task have read the record that is kept, unless it is gone,
and it remains so if some of them are done or the record is removed. -/
lemma of_poll (h : c.Stage v id known e ps) (hp : p ∈ ps) (hdemand : p.demand = .poll id) :
    (∃ e₀ w r a, (e = some e₀ ∨ e = none) ∧ c.Asks v id w r a p.request p.since.world ∧
        e₀.record? id = .ok r) ∧
      ∀ e' ps', (e' = e ∨ e' = none) → (∀ q ∈ ps', q ∈ ps) → c.Stage v id known e' ps' := by
  cases h with
  | fresh => exact absurd hp (by simp)
  | offered known demand =>
    obtain rfl := List.mem_singleton.mp hp
    exact absurd (demand.symm.trans hdemand) (by simp)
  | @settled e₀ _ _ known held polled =>
    obtain ⟨-, w, r, a, hasks, hread⟩ := polled p hp
    refine ⟨⟨e₀, w, r, a, held, hasks, hread⟩, fun e' ps' he' hps' => ?_⟩
    refine .settled known ?_ fun q hq => polled q (hps' q hq)
    obtain rfl | rfl := he'
    · exact held
    · exact .inr rfl

/-- Whoever reads an assignment is one more to ask the worker.

**Proof sketch.** A record with an assignment is no unassigned one, so the task is settled, and the
one who asks is one more of those who do. -/
lemma asked (h : c.Stage v id known e ps) (hfaithful : v.IsFaithful) (hdemand : p.demand = .poll id)
    {e₀ : TaskEntry} {w : ω} {r : TaskRecord} {a : Assignment} (he : e = some e₀)
    (hread : e₀.record? id = .ok r) (hasks : c.Asks v id w r a p.request p.since.world) :
    c.Stage v id known e (ps ++ [p]) := by
  cases h with
  | fresh => exact absurd he (by simp)
  | offered known demand subject unassigned =>
    obtain rfl := Option.some.inj he
    subst subject
    have hassigned := hasks.assigned
    rw [hfaithful _ _ hread] at hassigned
    exact absurd hassigned (by simp [Task.ofRecord, Task.toRecord, unassigned, Task.assignmentOf])
  | settled known held polled =>
    obtain rfl | rfl := held
    · obtain rfl := Option.some.inj he
      refine .settled known (.inl rfl) fun q hq => ?_
      obtain hq | hq := List.mem_append.mp hq
      · exact polled q hq
      · obtain rfl := List.mem_singleton.mp hq
        exact ⟨hdemand, w, r, a, hasks, hread⟩
    · exact absurd he (by simp)

end Stage

end Scheduler

end ConversionScheduler
