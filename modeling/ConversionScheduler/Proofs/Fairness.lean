import ConversionScheduler.Proofs.Demands
import ConversionScheduler.Proofs.Membership
import ConversionScheduler.Proofs.Turns
import Mathlib.Algebra.BigOperators.Group.List.Basic
/-!
# Tasks are shared out in proportion to the weights

The counter of the balancer moves when a worker is being selected, and at no other time. If the same
workers are there each time, they are listed in the same order, so that one submission after the
other takes the next turn, whatever becomes of it later and whatever else is going on. Since a
window of turns is shared out in proportion to the weights, so are the submissions.

## Main definitions

* `Manager.State.sameTurn` — the conduct in which nobody's turn passes.
* `Manager.selected?` — the worker that is selected in a state.
* `Manager.IsStaffed` — which workers there are to select from.
* `Scheduler.Window` — the selections in a part of a run.

## Main results

* `Scheduler.Demand.observes_sameTurn` — without a selection nobody's turn passes.
* `Scheduler.Runs.isSteady` — nor does it when operations that wait go on.
* `Manager.IsStaffed.selects` — the worker whose turn it is is selected.
* `Scheduler.Window.successive` — the selections of a window are successive turns.
* `selection_fair` — each worker is selected in proportion to its weight.
-/

namespace ConversionScheduler

open Manager (State)
open Manager.State (query count)

/-! ## Whose turn it is -/

namespace Manager

variable {ω α : Type}

/-- The conduct in which nobody's turn passes. -/
def State.sameTurn : Conduct (State ω) where
  leads s t := t.balancer.counter = s.balancer.counter
  refl _ := rfl
  trans h h' := h'.trans h

/-- Nothing that a manager does passes the turn, except for the choice itself. -/
lemma observes_sameTurn (m : Manager ω) : m.Observes State.sameTurn where
  perform _ _ := rfl
  close _ := rfl
  pool _ _ := rfl
  observe s id weight := s.balancer.counter_observe id weight
  forget s id := s.balancer.counter_forget id
  metrics _ _ := rfl
  journal _ _ := rfl
  stop _ := rfl

/-- A call of a store does not pass the turn. -/
lemma State.sameTurn_query (q : Query ω α) : Operation.Observes State.sameTurn (query q) :=
  Operation.observes_step fun _ => rfl

/-- Counting something does not pass the turn. -/
lemma State.sameTurn_count (f : Metrics → Metrics) :
    Operation.Observes (State.sameTurn (ω := ω)) (count f) :=
  Operation.observes_update fun _ => rfl

/-- The worker that is selected in a state, if one is. -/
def selected? (m : Manager ω) (s : State ω) : Option String :=
  match m.selectWorker s with
  | .finished (.ok (some n)) u => some (u.pool.proxy n).id
  | _ => none

/-- **The worker whose turn it is is selected**, and its turn passes, if all the listed workers can
be read.

**Proof sketch.** The ids are listed, and the balancer chooses the one at its turn. Its record is
read in the first round, so that the selection ends there, with the proxy of that record. -/
theorem selected?_of_listed {m : Manager ω} {s : State ω} {ids : List String} {w : ω}
    (hpool : s.pool.IsKeyed) (hids : m.workers.ids s.world = (.ok ids, w)) (hne : ids ≠ [])
    (hget : ∀ id ∈ ids, ∃ r w', m.workers.get id w = (.ok r, w') ∧ r.id = id) :
    m.selected? s = (Balancer.turns s.balancer.weight ids)[s.balancer.counter.toNat %
        (Balancer.turns s.balancer.weight ids).length]? ∧
      ∃ r u, m.selectWorker s = .finished r u ∧
        u.balancer.counter = s.balancer.counter + 1 := by
  obtain ⟨hchoice, hcounter⟩ := s.balancer.select_eq hne
  obtain ⟨id, hid, hturn⟩ := s.balancer.exists_turn hne s.balancer.counter.toNat
  obtain ⟨r, w', hread, hrecord⟩ := hget id hid
  obtain ⟨rounds, hrounds⟩ := Nat.exists_eq_succ_of_ne_zero (List.length_eq_zero_iff.not.mpr hne)
  obtain ⟨t, ht⟩ : ∃ t : State ω,
    t = { s with world := w, balancer := (s.balancer.select ids).2 } := ⟨_, rfl⟩
  have hrun : m.selectWorker s = .finished (.ok (some (t.pool.resolve r).1))
      { t with world := w', pool := (t.pool.resolve r).2 } := by
    show (query m.workers.ids >>= _) s = _
    rw [State.query_bind_ok hids, hrounds, selectFrom, Operation.bind_apply]
    simp only [Operation.step, hchoice, hturn, Act.andThen, ← ht]
    show (m.find? id >>= _) t = _
    rw [Operation.bind_apply]
    obtain ⟨r', w'', hread', hfind⟩ | ⟨e, w'', hread', -⟩ := find?_cases m id t
    · rw [ht] at hread'
      obtain ⟨hr, rfl⟩ := Prod.mk.inj (hread.symm.trans hread')
      obtain rfl := Except.ok.inj hr
      rw [hfind]
      rfl
    · rw [ht] at hread'
      exact absurd (congrArg Prod.fst (hread.symm.trans hread')) (by simp)
  have hkeyed : t.pool.IsKeyed := by
    rw [ht]
    exact hpool
  have hproxy := congrArg Contact.id (Pool.contact_resolve hkeyed r).2
  refine ⟨?_, _, _, hrun, ?_⟩
  · rw [selected?, hrun, hturn]
    exact congrArg some (hproxy.trans hrecord)
  · rw [ht]
    exact hcounter

/-! ## The workers there are -/

/-- Which workers there are to select from, and with which weights. The calls by which the worker
that is selected is read do not fail. -/
structure IsStaffed (m : Manager (Faulty Site)) (b : WorkerBackend) (members : List String)
    (weight : String → Nat) (s : State (Faulty Site)) : Prop where
  live : ∀ id, id ∈ members ↔ ∃ r, (b.store.get id s.world.base).1 = .ok r
  weighed : ∀ id ∈ members, s.balancer.weight id = weight id
  readable : ∃ ids w, m.workers.ids s.world = (.ok ids, w) ∧
    ∀ id ∈ members, ∃ r, (m.workers.get id w).1 = .ok r
  real : s.world.dangling = []

section Staffed

variable {config : Config} {m : Manager (Faulty Site)} {reg : Registry} {members : List String}
  {weight : String → Nat} {s : State (Faulty Site)}

/-- The listing, if it does not fail. -/
lemma Stocks.of_ids (h : m.Stocks config reg s) (hreal : s.world.dangling = []) {ids : List String}
    {w : Faulty Site} (hids : m.workers.ids s.world = (.ok ids, w)) :
    m.Stocks config reg { s with world := w } ∧ w.base.clock = s.world.base.clock ∧
      reg.Answers config.registry.lease s.world.base.clock .ids (.ok (.ids ids)) := by
  rw [h.store] at hids
  obtain ⟨ids', hcall, -, rfl⟩ := Stores.ids_of_ok hids
  rw [Site.workers_stores] at hcall
  have hrun : WorkerCall.ids.perform config.registry.store s.world.base =
      (.ok (.ids ids'), w.base) := by
    rw [WorkerCall.perform, Query.map_apply, hcall]
    rfl
  obtain ⟨hanswers, hholds, hclock⟩ :=
    WorkerBackend.answers_of_perform h.valid h.holds h.deadline .ids rfl hrun
  rw [hreal, List.isEmpty_nil, if_pos rfl]
  refine ⟨⟨h.valid, h.store, hholds, ?_, ?_⟩, hclock, hanswers⟩
  · show reg.IsKeyed _ w.base.clock
    rw [hclock]
    exact h.keyed
  · show (w.base.clock.deadline? _).isSome = true
    rw [hclock]
    exact h.deadline

/-- A worker is there if and only if its record can be read. -/
lemma Stocks.isSome_live?_iff (h : m.Stocks config reg s) (id : String) :
    (reg.live? config.registry.lease s.world.base.clock id).isSome = true ↔
      ∃ r, (config.registry.store.get id s.world.base).1 = .ok r := by
  rcases hget : config.registry.store.get id s.world.base with ⟨a, s'⟩
  have hrun : (WorkerCall.get id).perform config.registry.store s.world.base =
      (a.map .record, s') := by
    rw [WorkerCall.perform, Query.map_apply, hget]
  obtain ⟨hanswers, -⟩ :=
    WorkerBackend.answers_of_perform h.valid h.holds h.deadline (.get id) rfl hrun
  rw [Registry.eq_of_answers_get hanswers]
  cases reg.live? config.registry.lease s.world.base.clock id <;> simp

/-- The workers there are are those that are listed. -/
lemma Stocks.isStaffed (h : m.Stocks config reg s) (hreal : s.world.dangling = []) {w : Faulty Site}
    (hids : m.workers.ids s.world = (.ok members, w))
    (hweighed : ∀ id ∈ members, s.balancer.weight id = weight id)
    (hread : ∀ id ∈ members, ∃ r, (m.workers.get id w).1 = .ok r) :
    m.IsStaffed config.registry members weight s := by
  obtain ⟨-, -, ids', hsame, -, hmem⟩ := h.of_ids hreal hids
  obtain rfl : members = ids' := by simpa using hsame
  exact ⟨fun id => by rw [hmem, h.isSome_live?_iff], hweighed, ⟨members, w, hids, hread⟩, hreal⟩

/-- **The worker whose turn it is among those there are is selected**, and its turn passes.

**Proof sketch.** The ids listed are the members in their order, whatever order the store has them
in, so the turns are the same each time. Every member has a record, which is found under its id. -/
theorem IsStaffed.selects (h : m.IsStaffed config.registry members weight s)
    (hstocks : m.Stocks config reg s) (hpool : s.pool.IsKeyed) (hmembers : members.Nodup)
    (hne : members ≠ []) :
    m.selected? s = (Balancer.turns weight (sortIds members))[s.balancer.counter.toNat %
        (Balancer.turns weight (sortIds members)).length]? ∧
      ∃ r u, m.selectWorker s = .finished r u ∧
        u.balancer.counter = s.balancer.counter + 1 := by
  obtain ⟨ids, w, hids, hread⟩ := h.readable
  obtain ⟨hlisted, hclock, hanswers⟩ := hstocks.of_ids h.real hids
  obtain ⟨ids', hsame, hsorted, hmem⟩ := hanswers
  obtain rfl : ids = ids' := by simpa using hsame
  -- the same workers are listed in the same order each time
  have hmem' : ∀ id, id ∈ ids ↔ id ∈ members := fun id => by
    rw [hmem, hstocks.isSome_live?_iff, h.live]
  have hsort : ids = sortIds members :=
    eq_of_ascending hsorted ((sortIds_strict hmembers).imp Utf8.encode_lt_encode) fun id => by
      rw [hmem', mem_sortIds]
  have hnonempty : ids ≠ [] := by
    obtain ⟨id, hid⟩ := List.exists_mem_of_ne_nil _ hne
    exact List.ne_nil_of_mem ((hmem' id).mpr hid)
  have hturns : Balancer.turns s.balancer.weight ids = Balancer.turns weight (sortIds members) := by
    rw [hsort]
    exact Balancer.turns_congr fun id hid => h.weighed id (mem_sortIds.mp hid)
  rw [← hturns]
  refine selected?_of_listed hpool hids hnonempty fun id hid => ?_
  obtain ⟨r, hr⟩ := hread id ((hmem' id).mp hid)
  rcases hget : m.workers.get id w with ⟨a, w'⟩
  rw [hget] at hr
  obtain rfl : a = .ok r := hr
  obtain ⟨-, -, hanswer⟩ := hlisted.of_ok (.get id) (by simp) rfl (perform_get hget)
  obtain ⟨l, hl, rfl⟩ := Registry.live?_of_get hanswer
  exact ⟨l.record, w', rfl, (hlisted.keyed id l hl).1⟩

end Staffed

end Manager

/-! ## Operations without a selection -/

namespace Scheduler

variable {ω : Type} {c : Scheduler ω} {s : State ω}

/-- Whether a worker is selected when a demand is met. -/
def Demand.selects : Demand → Bool
  | submit _ => true
  | manage a => a.selects
  | poll _ | stop => false

/-- An inquiry about a task does not pass the turn. -/
lemma sameTurn_status (id : String) : Operation.Observes State.sameTurn (c.status id) :=
  observes_status c.manager.observes_sameTurn.upholds State.sameTurn_query id

/-- **Without a selection nobody's turn passes.** -/
theorem Demand.observes_sameTurn {d : Demand} (h : d.selects = false) :
    Operation.Observes State.sameTurn (d.run c) := by
  cases d with
  | submit t => exact absurd h (by simp [selects])
  | poll id => exact (sameTurn_status id).bind fun _ => Operation.observes_pure ()
  | manage a =>
    exact observes_action c.manager.observes_sameTurn.upholds a fun ha =>
      absurd (h.symm.trans ha) (by simp)
  | stop =>
    exact (Manager.observes_close c.manager.observes_sameTurn.upholds).bind fun _ =>
      State.sameTurn_query _

/-! ## Submissions -/

/-- What follows the answer of a worker does not pass the turn. -/
lemma sameTurn_conclude (t : Task) (r : Except Failure Task) :
    Operation.Observes State.sameTurn (c.conclude t r) := by
  rcases r with (e | ⟨⟩) | assigned
  · exact (State.sameTurn_count _).bind fun _ =>
      (observes_rollBack State.sameTurn_query t.id).bind fun _ => Operation.observes_fail e
  · exact fun _ => rfl
  · exact (State.sameTurn_query _).bind fun _ => (State.sameTurn_count _).bind fun _ =>
      Operation.observes_pure assigned

/-- Once a worker has been selected for a task, nobody's turn passes. -/
lemma sameTurn_execute {t : Task} {r : Except Failure (Option Nat)} {u : State ω}
    (h : c.manager.selectWorker s = .finished r u) :
    (c.execute t s).Observes State.sameTurn u := by
  rw [execute, Operation.bind_apply, h]
  rcases r with e | _ | n
  · rfl
  · rfl
  · exact observes_offer c.manager.observes_sameTurn.upholds t n u

/-- After the selection, a submission does not pass the turn any more. -/
lemma sameTurn_schedule {t : Task} {r : Except Failure (Option Nat)} {u v : State ω}
    (hadd : query (c.stores.tasks.add t) s = .finished (.ok ()) u)
    (h : c.manager.selectWorker u = .finished r v) :
    (c.schedule t s).Observes State.sameTurn v := by
  rcases hcall : c.stores.tasks.add t s.world with ⟨e | ⟨⟩, w⟩
  · rw [Manager.State.query_eq hcall] at hadd
    exact absurd (Act.finished.inj hadd).1 (by simp)
  · rw [Manager.State.query_eq hcall] at hadd
    obtain ⟨-, rfl⟩ := Act.finished.inj hadd
    rw [schedule_of_add hcall]
    exact (sameTurn_execute h).andThen fun r => sameTurn_conclude t r

/-- A submission that cannot be written is over before a worker is selected. -/
lemma schedule_of_refused {t : Task} {e : Failure} {u : State ω}
    (hadd : query (c.stores.tasks.add t) s = .finished (.error e) u) :
    c.schedule t s = .finished (.error e) u ∧ State.sameTurn.leads s u := by
  have hturn := State.sameTurn_query (c.stores.tasks.add t) s
  rw [hadd] at hturn
  rw [schedule, Operation.bind_apply, hadd]
  exact ⟨rfl, hturn⟩

/-- An operation observes a conduct also if its result is not used. -/
lemma observes_discard {α : Type} {e : Conduct (State ω)} {x : Operation (State ω) α} {u : State ω}
    (h : (x s).Observes e u) : ((x >>= fun _ => pure ()) s).Observes e u := by
  rw [Operation.discard_apply]
  exact h.andThen fun _ t => e.refl t

/-- From its first pause on, no demand lets anybody's turn pass.

**Proof sketch.** A demand that selects has done so before its first pause: a submission after its
record was written, an execution and a selection at once. After that, and in the other demands, the
turn of the balancer stays. -/
theorem Demand.rests (d : Demand) : (d.run c s).Rests State.sameTurn := by
  cases hd : d.selects with
  | false => exact (d.observes_sameTurn hd s).rests
  | true =>
    have hselected : ∃ r u, c.manager.selectWorker s = .finished r u :=
      c.manager.selectWorker_finished s
    cases d with
    | submit t =>
      cases hadd : query (c.stores.tasks.add t) s with
      | waiting => exact absurd hadd (by simp [query, Operation.step])
      | finished r u =>
        cases r with
        | error e =>
          show ((c.schedule t >>= fun _ => pure ()) s).Rests _
          rw [Operation.discard_apply, (schedule_of_refused hadd).1]
          trivial
        | ok a =>
          obtain ⟨r, v, hselect⟩ := c.manager.selectWorker_finished u
          exact (observes_discard (sameTurn_schedule hadd hselect)).rests
    | manage a =>
      obtain ⟨r, u, hselect⟩ := hselected
      cases a with
      | select =>
        show ((c.manager.selectWorker >>= fun _ => pure ()) s).Rests _
        rw [Operation.discard_apply, hselect]
        trivial
      | execute t => exact (observes_discard (sameTurn_execute hselect)).rests
      | _ => exact absurd hd (by simp [selects, Action.selects])
    | poll | stop => exact absurd hd (by simp [selects])

/-- **When operations that wait go on, nobody's turn passes.** -/
theorem Runs.isSteady {idle : ω → ω → Prop} {n : Configuration (State ω)} (h : c.Runs idle s n) :
    n.IsSteady State.sameTurn := by
  induction h with
  | refl => exact fun w hw => absurd hw (by simp)
  | tail _ hstep ih =>
    cases hstep with
    | idle => exact ih
    | start hd =>
      obtain ⟨d, -, rfl⟩ := hd
      exact ih.enrol_of_rests (fun _ hw => hw) d.rests
    | resume i o => exact (ih.resume i o).2

end Scheduler

/-! ## Windows of a run -/

section Windows

variable {config : Config} {c : Scheduler (Faulty Site)} {members : List String}
  {weight : String → Nat} {s : State (Faulty Site)}
  {n n' : Configuration (State (Faulty Site))} {chosen : List (Option String)}

/-- What follows a state of a run, up to another one, and the workers that are selected meanwhile
for the tasks that are submitted. Whenever a worker is selected the same workers are there, with the
same weights, and those that are read can be read. Otherwise anything may be going on: tasks may be
asked for, workers may give signs of life, register or be removed, sweeps may be made, and answers
may come in for whatever has been begun before. -/
inductive Scheduler.Window (c : Scheduler (Faulty Site)) (config : Config) (members : List String)
    (weight : String → Nat) (n : Configuration (State (Faulty Site))) :
    List (Option String) → Configuration (State (Faulty Site)) → Prop
  | nil : Window c config members weight n [] n
  | idle {chosen : List (Option String)} {n' : Configuration (State (Faulty Site))}
    {w : Faulty Site} (window : Window c config members weight n chosen n')
    (preserves : config.Preserves n'.state.world w) :
    Window c config members weight n chosen { n' with state := { n'.state with world := w } }
  | resume {chosen : List (Option String)} {n' : Configuration (State (Faulty Site))}
    (window : Window c config members weight n chosen n') (i : Nat) (o : Http.Outcome) :
    Window c config members weight n chosen (n'.resume i o)
  | other {chosen : List (Option String)} {n' : Configuration (State (Faulty Site))}
    (window : Window c config members weight n chosen n') (d : Demand)
    (sized : d.isSized = true) (unselective : d.selects = false) :
    Window c config members weight n chosen (n'.start (d.run c))
  | refused {chosen : List (Option String)} {n' : Configuration (State (Faulty Site))}
    (window : Window c config members weight n chosen n') (t : Task) {e : Failure}
    {u : State (Faulty Site)}
    (refused : query (c.stores.tasks.add t) n'.state = .finished (.error e) u) :
    Window c config members weight n chosen (n'.start ((Demand.submit t).run c))
  | submitted {chosen : List (Option String)} {n' : Configuration (State (Faulty Site))}
    (window : Window c config members weight n chosen n') (t : Task) {u : State (Faulty Site)}
    (written : query (c.stores.tasks.add t) n'.state = .finished (.ok ()) u)
    (staffed : c.manager.IsStaffed config.registry members weight u) :
    Window c config members weight n (chosen ++ [c.manager.selected? u])
      (n'.start ((Demand.submit t).run c))

/-- A window of a run ends in a state of the run. -/
lemma Scheduler.Window.runs (h : c.Window config members weight n chosen n')
    (hn : c.Runs config.Preserves s n) : c.Runs config.Preserves s n' := by
  induction h with
  | nil => exact hn
  | idle _ preserves ih => exact .tail ih (.idle ⟨_, preserves, rfl⟩)
  | resume _ i o ih => exact .tail ih (.resume i o)
  | other _ d sized _ ih => exact .tail ih (.start ⟨d, sized, rfl⟩)
  | refused _ t _ ih => exact .tail ih (.start ⟨.submit t, rfl, rfl⟩)
  | submitted _ t _ _ ih => exact .tail ih (.start ⟨.submit t, rfl, rfl⟩)

/-- A task that is being written leaves the store of the workers as it is known in a run. -/
lemma stocks_of_written (hb : config.registry.IsValid)
    (hc : c.stores = (Site.stores config).withFaults) (hgood : config.registry.IsGood s.world.base)
    {t : Task} {u : State (Faulty Site)}
    (hadd : query (c.stores.tasks.add t) s = .finished (.ok ()) u) :
    (∃ reg, c.manager.Stocks config reg u) ∧ u.pool = s.pool ∧ u.balancer = s.balancer := by
  rcases hcall : c.stores.tasks.add t s.world with ⟨r, w⟩
  rw [Manager.State.query_eq hcall] at hadd
  obtain ⟨-, rfl⟩ := Act.finished.inj hadd
  have hkept := (Site.within_preserves config).tasks (.add t) s.world hgood
  rw [TaskCall.perform, Query.map_apply, ← hc, hcall] at hkept
  obtain ⟨reg, hholds, hkeyed, hdeadline⟩ := hkept
  exact ⟨⟨reg, hb, congrArg Stores.workers hc, hholds, hkeyed, hdeadline⟩, rfl, rfl⟩

section Run

variable (hb : config.registry.IsValid) (hc : c.stores = (Site.stores config).withFaults)
  (hpool : s.pool = .empty) (hjournal : s.journal = [])
  (hs : config.registry.IsGood s.world.base) (hn : c.Runs config.Preserves s n)
  (hmembers : members.Nodup) (hne : members ≠ [])

include hb hc hpool hjournal hs hn hmembers hne

/-- **The selections of a window are successive turns**, one for each step of the counter.

**Proof sketch.** Induction on the window. Only a submission moves the counter, by one step, and it
selects the worker whose turn it is; the list of turns is the same each time, since it depends on
nothing but which workers there are. -/
theorem Scheduler.Window.successive (h : c.Window config members weight n chosen n') :
    n'.state.balancer.counter = n.state.balancer.counter + .ofNat chosen.length ∧
      chosen = (List.range chosen.length).map fun j =>
        (Balancer.turns weight (sortIds members))[(n.state.balancer.counter + .ofNat j).toNat %
          (Balancer.turns weight (sortIds members)).length]? := by
  induction h with
  | nil => exact ⟨by simp, rfl⟩
  | idle _ _ ih => exact ih
  | resume window i o ih =>
    have hturn := ((window.runs hn).isSteady.resume i o).1
    exact ⟨hturn.trans ih.1, ih.2⟩
  | @other _ n' _ d _ unselective ih =>
    have hturn := Configuration.leads_enrol n'.waiting
      (Demand.observes_sameTurn (c := c) unselective n'.state)
    exact ⟨hturn.trans ih.1, ih.2⟩
  | @refused _ n' window t _ u refused ih =>
    obtain ⟨hschedule, hturn⟩ := schedule_of_refused refused
    have hstart : (n'.start ((Demand.submit t).run c)).state = u := by
      show (Configuration.enrol _ ((c.schedule t >>= fun _ => pure ()) n'.state)).state = u
      rw [Operation.discard_apply, hschedule]
      rfl
    rw [hstart]
    exact ⟨hturn.trans ih.1, ih.2⟩
  | @submitted chosen n' window t u written staffed ih =>
    obtain ⟨hcounter, hchosen⟩ := ih
    have hruns := window.runs hn
    obtain ⟨⟨reg, hstocks⟩, hsame, hbalancer⟩ :=
      stocks_of_written hb hc (hruns.isGood hb hc hpool hjournal hs) written
    have hkeyed : u.pool.IsKeyed :=
      hsame ▸ hruns.isKeyed (hc ▸ Site.within_preserves config) hpool
    obtain ⟨hselected, r, v, hselect, hpassed⟩ := staffed.selects hstocks hkeyed hmembers hne
    have hturn := Configuration.leads_enrol n'.waiting
      (observes_discard (sameTurn_schedule written hselect))
    rw [hbalancer, hcounter] at hselected hpassed
    rw [List.length_append, List.length_singleton]
    -- sums of 64 bits, which may wrap round
    refine ⟨?_, ?_⟩
    · refine (hturn.trans hpassed).trans ?_
      rw [UInt64.add_assoc]
      congr 1
      exact (UInt64.ofNat_add _ _).symm
    · rw [List.range_succ, List.map_append, List.map_singleton, ← hchosen, hselected]

/-- **Each worker is selected in proportion to its weight**: in every window of a run in which as
many tasks are submitted as `k` times the weights of the workers are together, whatever becomes of
the tasks, each worker is selected `k` times as often as it has weight, unless the counter of the
balancer wraps around meanwhile.

**Proof sketch.** The selections are successive turns, and the window is `k` times as long as the
list of turns. -/
theorem selection_fair {k : Nat} (h : c.Window config members weight n chosen n')
    (hlength : chosen.length = k * (members.map weight).sum)
    (hcounter : n.state.balancer.counter.toNat + chosen.length ≤ 2 ^ 64) :
    ∀ id ∈ members, chosen.count (some id) = k * weight id := by
  intro id hid
  obtain ⟨-, hchosen⟩ := h.successive hb hc hpool hjournal hs hn hmembers hne
  have hsum : ((sortIds members).map weight).sum = (members.map weight).sum :=
    ((sortIds_perm members).map weight).sum_eq
  have hplain : ∀ j ∈ List.range chosen.length,
      (n.state.balancer.counter + .ofNat j).toNat = n.state.balancer.counter.toNat + j := by
    intro j hj
    have hlt := List.mem_range.mp hj
    rw [UInt64.toNat_add, UInt64.toNat_ofNat', Nat.add_mod_mod, Nat.mod_eq_of_lt (by omega)]
  rw [hchosen, List.map_congr_left fun j hj => by rw [hplain j hj], hlength, ← hsum]
  exact Balancer.count_window ((sortIds_perm members).nodup_iff.mpr hmembers)
    (mem_sortIds.mpr hid) _ k

end Run

end Windows

/-! ### Two workers of different weight -/

namespace Scheduler

/-- Nothing has happened yet, and the balancer is one that heeds weights. -/
def weighing : State (Faulty Site) := { initialFaulty with balancer := .weighted 0 .empty }

/-- A store in which there is nothing yet is a good one. -/
lemma isGood_weighing : (Config.registry {}).IsGood weighing.world.base :=
  ⟨.empty, MemoryWorkers.holds_empty _ rfl, Registry.isKeyed_empty _ _, rfl⟩

/-- A task is submitted. -/
def onceMore (n : Configuration (State (Faulty Site))) : Configuration (State (Faulty Site)) :=
  n.start ((Demand.submit newTask).run (basic false))

/-- Two workers have registered, the one with twice the weight of the other, and a first task has
been submitted. -/
def crewed : Configuration (State (Faulty Site)) :=
  onceMore (((⟨weighing, []⟩ : Configuration _).start
    ((Demand.manage (.register ⟨"a", "a:1", 2⟩)).run (basic false))).start
    ((Demand.manage (.register ⟨"b", "b:1", 1⟩)).run (basic false)))

/-- A run gets to the state in which both workers have registered. -/
lemma runs_crewed : (basic false).Runs (Config.Preserves {}) weighing crewed :=
  .tail (.tail (.tail .refl (.start ⟨.manage (.register ⟨"a", "a:1", 2⟩), rfl, rfl⟩))
    (.start ⟨.manage (.register ⟨"b", "b:1", 1⟩), rfl, rfl⟩)) (.start ⟨.submit newTask, rfl, rfl⟩)

/-- The worker of the first task has taken it, and then a worker gives a sign of life. -/
def inBetween (n : Configuration (State (Faulty Site))) : Configuration (State (Faulty Site)) :=
  (n.resume 0 acceptance).start ((Demand.manage (.heartbeat "a")).run (basic false))

/-- The state once a task has been written. -/
def noted (s : State (Faulty Site)) : State (Faulty Site) :=
  { s with world := ((basic false).stores.tasks.add newTask s.world).2 }

/-- The weights of the two workers. -/
def crewWeight (id : String) : Nat := if id = "a" then 2 else 1

/-- Whether a task can be written, and then the two workers are there, can be read, and `id` is the
one that is selected. -/
def isCrewed (id : String) (s : State (Faulty Site)) : Bool :=
  let w := (noted s).world
  ((basic false).stores.tasks.add newTask s.world).1 = .ok () && w.dangling.isEmpty &&
    ((basic false).manager.workers.ids w).1 = .ok ["a", "b"] &&
    ["a", "b"].all (fun id => s.balancer.weight id = crewWeight id &&
      ((basic false).manager.workers.get id ((basic false).manager.workers.ids w).2).1.isOk) &&
    (basic false).manager.selected? (noted s) = some id

/-- One more submission is one more selection in the window, if the workers are there.

**Proof sketch.** What is asked of the state is computed; it says that the task can be added, and
that the store lists the two workers with their records and weights. -/
lemma Window.onceMore {n : Configuration (State (Faulty Site))} {chosen : List (Option String)}
    (id : String) (h : (basic false).Window {} ["a", "b"] crewWeight crewed chosen n)
    (hn : isCrewed id n.state = true) :
    (basic false).Window {} ["a", "b"] crewWeight crewed (chosen ++ [some id])
      (Scheduler.onceMore n) := by
  simp only [isCrewed, Bool.and_eq_true, decide_eq_true_eq, List.isEmpty_iff, List.all_eq_true]
    at hn
  obtain ⟨⟨⟨⟨hadd, hreal⟩, hids⟩, hmembers⟩, hselected⟩ := hn
  have hgood := (h.runs runs_crewed).isGood (show (Config.registry {}).IsValid from trivial)
    (show (basic false).stores = (Site.stores {}).withFaults from rfl) rfl rfl isGood_weighing
  have hwritten : query ((basic false).stores.tasks.add newTask) n.state =
      .finished (.ok ()) (noted n.state) :=
    Manager.State.query_eq (Prod.ext hadd rfl)
  obtain ⟨⟨reg, hstocks⟩, -⟩ := stocks_of_written (show (Config.registry {}).IsValid from trivial)
    (show (basic false).stores = (Site.stores {}).withFaults from rfl) hgood hwritten
  rw [← hselected]
  refine h.submitted newTask hwritten (hstocks.isStaffed hreal (Prod.ext hids rfl)
    (fun id hid => (hmembers id hid).1) fun id hid => ?_)
  cases hget : ((basic false).manager.workers.get id
      ((basic false).manager.workers.ids (noted n.state).world).2).1 with
  | ok r => exact ⟨r, rfl⟩
  | error e =>
    have hok := (hmembers id hid).2
    rw [hget] at hok
    exact absurd hok (by simp [Except.isOk, Except.toBool])

end Scheduler

/-- After the first task, two more go to the worker with twice the weight, and one to the other. -/
theorem selection_fair_crewed :
    let chosen := [some "a", some "b", some "a"]
    (Scheduler.basic false).Runs (Config.Preserves {}) Scheduler.weighing Scheduler.crewed ∧
      (Scheduler.basic false).Window {} ["a", "b"] Scheduler.crewWeight Scheduler.crewed chosen
        (Scheduler.onceMore (Scheduler.onceMore
          (Scheduler.inBetween (Scheduler.onceMore Scheduler.crewed)))) ∧
      Scheduler.crewed.state.balancer.counter.toNat + chosen.length ≤ 2 ^ 64 ∧
      chosen.count (some "a") = 1 * Scheduler.crewWeight "a" ∧
      chosen.count (some "b") = 1 * Scheduler.crewWeight "b" := by
  intro chosen
  have hfirst := Scheduler.Window.nil.onceMore "a" (by decide +kernel)
  have hbetween := (hfirst.resume 0 Scheduler.acceptance).other (.manage (.heartbeat "a")) rfl rfl
  have hsecond := hbetween.onceMore "b" (by decide +kernel)
  have hwindow := hsecond.onceMore "a" (by decide +kernel)
  have hcounter : Scheduler.crewed.state.balancer.counter.toNat + chosen.length ≤ 2 ^ 64 := by
    decide +kernel
  have hfair := selection_fair (k := 1) (show (Config.registry {}).IsValid from trivial)
    (show (Scheduler.basic false).stores = (Site.stores {}).withFaults from rfl) rfl rfl
    Scheduler.isGood_weighing Scheduler.runs_crewed (by decide) (by decide) hwindow rfl hcounter
  exact ⟨Scheduler.runs_crewed, hwindow, hcounter, hfair "a" (by decide), hfair "b" (by decide)⟩

end ConversionScheduler
