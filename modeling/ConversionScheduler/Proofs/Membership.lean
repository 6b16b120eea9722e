import ConversionScheduler.Proofs.Absences
import ConversionScheduler.Proofs.Evictions
/-!
# Membership operations that fail

A worker registers by two writes: its record, and its first sign of life. What the manager keeps
itself is changed only after the last call of an operation, so an operation that fails leaves it
alone; and a call that fails leaves the store alone. But the first write of a registration is not
taken back if the second one fails: the registration is reported as failed, and the worker is there.
No other operation that fails leaves a trace.

## Main definitions

* `Faulty.Later` — time goes on, and the rules may change.
* `Manager.Unchanged` — an operation has left everything as it was.
* `Manager.Written` — an operation has written one record and left everything else as it was.
* `Manager.Stocks` — what is known of the store in a state of a run.

## Main results

* `WorkerBackend.holds_of_error`, `WorkerBackend.holds_of_ok` — calls of which some may fail.
* `Manager.Stocks.removeWorker_of_error`, `Manager.Stocks.heartbeat_of_error`,
  `Manager.Stocks.addWorker_of_error` — the operations, one by one.
* `membership_of_error` — what is left of a membership operation that fails.
-/

namespace ConversionScheduler

open Manager (State)
open Manager.State (query resolve)

/-! ## Calls that may fail -/

namespace WorkerCall

variable {ω : Type} {store : WorkerStore ω} {id : String} {w w' : ω}

/-- Looks for a worker that are answered alike bring the same. -/
lemma get_eq_of_perform
    (h : ((WorkerCall.get id).perform store w).1 = ((WorkerCall.get id).perform store w').1) :
    (store.get id w).1 = (store.get id w').1 := by
  simp only [perform, Query.map_apply] at h
  exact Registry.eq_of_map_record h

/-- A look that is answered with a record brings it. -/
lemma get_of_perform {r : WorkerRecord}
    (h : ((WorkerCall.get id).perform store w).1 = .ok (.record r)) :
    (store.get id w).1 = .ok r := by
  simp only [perform, Query.map_apply] at h
  exact Registry.eq_of_map_record h

/-- A listing that is answered with ids brings them. -/
lemma ids_of_perform {listed : List String}
    (h : (WorkerCall.ids.perform store w).1 = .ok (.ids listed)) :
    (store.ids w).1 = .ok listed := by
  simp only [perform, Query.map_apply] at h
  cases ha : (store.ids w).1 <;> simp_all [Except.map]

end WorkerCall

/-- The time goes on, or not, and meanwhile the rules may change. -/
def Faulty.Later (ttl : Duration) (w w' : Faulty Site) : Prop :=
  w'.base = w.base ∨ Site.Later ttl w.base w'.base

namespace WorkerBackend

variable {b : WorkerBackend} {stores : Stores Site} {reg : Registry} {w w' : Faulty Site}
  {call : WorkerCall} {a : WorkerAnswer} {e : Failure}

section Calls

variable (hb : b.IsValid) (hstores : stores.workers = b.store) (hholds : b.Holds reg w.base)
  (hdeadline : (w.base.clock.deadline? b.lease).isSome = true) (hcall : call ≠ .ids)
  (hsized : call.isSized = true)

include hb hstores hholds hdeadline hcall hsized

/-- A call that fails leaves the workers as they are. -/
lemma holds_of_error (hrun : call.perform stores.withFaults.workers w = (.error e, w')) :
    b.Holds reg w'.base ∧ w'.base.clock = w.base.clock := by
  obtain ⟨hbase, -⟩ | ⟨hbase, hanswer⟩ := call.perform_withFaults stores w
  · rw [hrun] at hbase
    rw [show w'.base = w.base from hbase]
    exact ⟨hholds, rfl⟩
  · rw [hrun, hstores] at hbase hanswer
    obtain ⟨hanswers, hholds', hclock⟩ := answers_of_perform hb hholds hdeadline call hsized
      (Prod.ext (hanswer hcall).symm hbase.symm)
    rw [Registry.next_of_error hanswers] at hholds'
    exact ⟨hholds', hclock⟩

/-- A call that does not fail does what it should. -/
lemma holds_of_ok (hrun : call.perform stores.withFaults.workers w = (.ok a, w')) :
    reg.Answers b.lease w.base.clock call (.ok a) ∧
      b.Holds (reg.next b.lease w.base.clock call) w'.base ∧ w'.base.clock = w.base.clock := by
  obtain ⟨-, e, he⟩ | ⟨hbase, hanswer⟩ := call.perform_withFaults stores w
  · rw [hrun] at he
    exact absurd he (by simp)
  · rw [hrun, hstores] at hbase hanswer
    exact answers_of_perform hb hholds hdeadline call hsized
      (Prod.ext (hanswer hcall).symm hbase.symm)

end Calls

/-- Two sites that hold the same workers at the same time tell the same about them. -/
lemma reads_of_holds (hb : b.IsValid) {s s' : Site} (hs : b.Holds reg s) (hs' : b.Holds reg s')
    (hclock : s'.clock = s.clock) (hdeadline : (s.clock.deadline? b.lease).isSome = true)
    (hread : call.isRead = true) : (call.perform b.store s').1 = (call.perform b.store s).1 := by
  have hsized := WorkerCall.isSized_of_isRead hread
  obtain ⟨hanswers, -⟩ := answers_of_perform hb hs hdeadline call hsized rfl
  obtain ⟨hanswers', -⟩ :=
    answers_of_perform hb hs' (by rw [hclock]; exact hdeadline) call hsized rfl
  rw [hclock] at hanswers'
  exact Registry.answers_unique hanswers' hanswers

end WorkerBackend

/-! ## The operations -/

namespace Manager

/-- An operation has left everything as it was: what the process keeps, and what there is to be read
about the workers now and at any later time. -/
structure Unchanged (b : WorkerBackend) (s s' : State (Faulty Site)) : Prop where
  process : s' = { s with world := s'.world }
  clock : s'.world.base.clock = s.world.base.clock
  workers : ∃ reg, b.Holds reg s.world.base ∧ b.Holds reg s'.world.base
  reads : ∀ call : WorkerCall, call.isRead = true →
    (call.perform b.store s'.world.base).1 = (call.perform b.store s.world.base).1

/-- An operation has written a record, with a lease that begins now, and left everything else as it
was. -/
structure Written (b : WorkerBackend) (r : WorkerRecord) (s s' : State (Faulty Site)) : Prop where
  process : s' = { s with world := s'.world }
  clock : s'.world.base.clock = s.world.base.clock
  workers : ∃ reg, b.Holds reg s.world.base ∧
    b.Holds (Function.update reg r.id (some (.start s.world.base.clock r))) s'.world.base
  others : ∀ id, id ≠ r.id →
    (b.store.get id s'.world.base).1 = (b.store.get id s.world.base).1
  live : 0 < b.lease.nanos → (b.store.get r.id s'.world.base).1 = .ok r ∧
    ∃ ids, (b.store.ids s'.world.base).1 = .ok ids ∧ r.id ∈ ids

variable {config : Config} {m : Manager (Faulty Site)} {s s' : State (Faulty Site)} {e : Failure}

/-- What is known of the store in a state of a run. -/
structure Stocks (config : Config) (m : Manager (Faulty Site)) (reg : Registry)
    (s : State (Faulty Site)) : Prop where
  valid : config.registry.IsValid
  store : m.workers = (Site.stores config).withFaults.workers
  holds : config.registry.Holds reg s.world.base
  keyed : reg.IsKeyed config.registry.lease s.world.base.clock
  deadline : (s.world.base.clock.deadline? config.registry.lease).isSome = true

variable {reg : Registry}

/-- A call that leaves the registry and the clock leaves everything there is to be read. -/
lemma Stocks.unchanged (h : m.Stocks config reg s) {w : Faulty Site}
    (hholds : config.registry.Holds reg w.base) (hclock : w.base.clock = s.world.base.clock) :
    Unchanged config.registry s { s with world := w } where
  process := rfl
  clock := hclock
  workers := ⟨reg, h.holds, hholds⟩
  reads _ hread := WorkerBackend.reads_of_holds h.valid h.holds hholds hclock h.deadline hread

/-- A call that fails. -/
lemma Stocks.of_error (h : m.Stocks config reg s) (call : WorkerCall) (hcall : call ≠ .ids)
    (hsized : call.isSized = true) {w : Faulty Site}
    (hrun : call.perform m.workers s.world = (.error e, w)) :
    m.Stocks config reg { s with world := w } ∧ w.base.clock = s.world.base.clock := by
  rw [h.store] at hrun
  obtain ⟨hholds, hclock⟩ := WorkerBackend.holds_of_error h.valid (Site.workers_stores config)
    h.holds h.deadline hcall hsized hrun
  refine ⟨⟨h.valid, h.store, hholds, ?_, ?_⟩, hclock⟩
  · show reg.IsKeyed _ w.base.clock
    rw [hclock]
    exact h.keyed
  · show (w.base.clock.deadline? _).isSome = true
    rw [hclock]
    exact h.deadline

/-- A call that does not fail. -/
lemma Stocks.of_ok (h : m.Stocks config reg s) (call : WorkerCall) (hcall : call ≠ .ids)
    (hsized : call.isSized = true) {a : WorkerAnswer} {w : Faulty Site}
    (hrun : call.perform m.workers s.world = (.ok a, w)) :
    m.Stocks config (reg.next config.registry.lease s.world.base.clock call)
        { s with world := w } ∧ w.base.clock = s.world.base.clock ∧
      reg.Answers config.registry.lease s.world.base.clock call (.ok a) := by
  rw [h.store] at hrun
  obtain ⟨hanswers, hholds, hclock⟩ := WorkerBackend.holds_of_ok h.valid
    (Site.workers_stores config) h.holds h.deadline hcall hsized hrun
  refine ⟨⟨h.valid, h.store, hholds, ?_, ?_⟩, hclock, hanswers⟩
  · show Registry.IsKeyed _ w.base.clock _
    rw [hclock]
    exact h.keyed.next call hsized
  · show (w.base.clock.deadline? _).isSome = true
    rw [hclock]
    exact h.deadline

/-- A call that fails leaves everything as it was. -/
lemma Stocks.unchanged_of_error (h : m.Stocks config reg s) (call : WorkerCall)
    (hcall : call ≠ .ids) (hsized : call.isSized = true) {w : Faulty Site}
    (hrun : call.perform m.workers s.world = (.error e, w)) :
    Unchanged config.registry s { s with world := w } := by
  obtain ⟨hafter, hclock⟩ := h.of_error call hcall hsized hrun
  exact h.unchanged hafter.holds hclock

/-- A worker that could not be taken out of the store. -/
lemma Stocks.removeWorker_of_error (h : m.Stocks config reg s) {id : String}
    (hrun : m.removeWorker id s = .finished (.error e) s') : Unchanged config.registry s s' := by
  change ((query (m.workers.remove id) >>= _) s).andThen _ = _ at hrun
  rcases hremove : m.workers.remove id s.world with ⟨e' | ⟨⟩, w⟩
  · rw [State.query_bind_error hremove] at hrun
    obtain ⟨-, rfl⟩ := Act.finished.inj hrun
    exact h.unchanged_of_error (.remove id) (by simp) rfl (perform_remove hremove)
  · rw [State.query_bind_ok hremove] at hrun
    exact absurd (Act.finished.inj hrun).1 (by simp)

/-- A sign of life that could not be written.

**Proof sketch.** The record cannot be read, or it is read and cannot be written. Neither call has
changed what the store holds. -/
lemma Stocks.heartbeat_of_error (h : m.Stocks config reg s) {id : String}
    (hrun : m.heartbeat id s = .finished (.error e) s') : Unchanged config.registry s s' := by
  change (query (m.workers.get id) >>= _) s = _ at hrun
  rcases hget : m.workers.get id s.world with ⟨e' | r₀, w⟩
  · rw [State.query_bind_error hget] at hrun
    obtain ⟨-, rfl⟩ := Act.finished.inj hrun
    exact h.unchanged_of_error (.get id) (by simp) rfl (perform_get hget)
  · rw [State.query_bind_ok hget] at hrun
    obtain ⟨hafter, hclock, hanswers⟩ := h.of_ok (.get id) (by simp) rfl (perform_get hget)
    obtain ⟨l, hl, rfl⟩ := Registry.live?_of_get hanswers
    have hsized : (WorkerCall.heartbeat l.record).isSized = true :=
      decide_eq_true (h.keyed id l hl).2
    change (query (m.workers.heartbeat l.record) >>= _) { s with world := w } = _ at hrun
    rcases hheard : m.workers.heartbeat l.record w with ⟨e' | r, w'⟩
    · rw [State.query_bind_error hheard] at hrun
      obtain ⟨-, rfl⟩ := Act.finished.inj hrun
      obtain ⟨hend, hclock'⟩ := hafter.of_error (.heartbeat l.record) (by simp) hsized
        (perform_heartbeat hheard)
      exact h.unchanged hend.holds (hclock'.trans hclock)
    · rw [State.query_bind_ok hheard] at hrun
      exact absurd (Act.finished.inj hrun).1 (by simp)

/-- A store that holds the workers with one more record, or with another record of a worker.

**Proof sketch.** The store answers as its registry does, and this one differs at the id of the
record only. So the other workers are read as before, and the record is there as long as its lease
lasts at all. -/
lemma Stocks.written (h : m.Stocks config reg s) {r : WorkerRecord} {w : Faulty Site}
    (hholds : config.registry.Holds
      (Function.update reg r.id (some (.start s.world.base.clock r))) w.base)
    (hclock : w.base.clock = s.world.base.clock) :
    Written config.registry r s { s with world := w } := by
  obtain ⟨reg', hreg'⟩ : ∃ reg' : Registry,
    reg' = Function.update reg r.id (some (.start s.world.base.clock r)) := ⟨_, rfl⟩
  have hlive : ∀ id, reg'.live? config.registry.lease s.world.base.clock id =
      if id = r.id then (some (.start s.world.base.clock r)).filter fun l =>
        s.world.base.clock.uptime.nanos < l.written.nanos + config.registry.lease.nanos
      else reg.live? config.registry.lease s.world.base.clock id := fun id => by
    rw [hreg', Registry.live?_update]
  have hanswers : ∀ call : WorkerCall, call.isSized = true → reg'.Answers config.registry.lease
      s.world.base.clock call (call.perform config.registry.store w.base).1 := by
    intro call hsized
    have hdeadline : (w.base.clock.deadline? config.registry.lease).isSome = true := by
      rw [hclock]
      exact h.deadline
    rw [← hreg'] at hholds
    obtain ⟨hanswers, -⟩ :=
      WorkerBackend.answers_of_perform h.valid hholds hdeadline call hsized rfl
    rwa [hclock] at hanswers
  refine ⟨rfl, hclock, ⟨reg, h.holds, hholds⟩, fun id hid => ?_, fun hpos => ?_⟩
  · obtain ⟨hbefore, -⟩ := WorkerBackend.answers_of_perform h.valid h.holds h.deadline (.get id) rfl
      rfl
    have hafter := hanswers (.get id) rfl
    rw [Registry.Answers, hlive, if_neg hid] at hafter
    exact WorkerCall.get_eq_of_perform (hafter.trans hbefore.symm)
  · have hfilter : (some (Lease.start s.world.base.clock r)).filter (fun l =>
        s.world.base.clock.uptime.nanos < l.written.nanos + config.registry.lease.nanos) =
          some (.start s.world.base.clock r) := by
      rw [Option.filter_some, if_pos]
      exact decide_eq_true (Nat.lt_add_of_pos_right hpos)
    have hafter := hanswers (.get r.id) rfl
    rw [Registry.Answers, hlive, if_pos rfl, hfilter] at hafter
    obtain ⟨ids, hids, -, hmem⟩ := hanswers .ids rfl
    refine ⟨WorkerCall.get_of_perform hafter, ids, WorkerCall.ids_of_perform hids, ?_⟩
    rw [hmem, hlive, if_pos rfl, hfilter]
    rfl

/-- A registration that fails has written nothing, or its record.

**Proof sketch.** A registration adds the record and renews it. A failure of the first call leaves
the registry as it was; a failure of the second leaves it as the first call did, with the record
written. -/
lemma Stocks.addWorker_of_error (h : m.Stocks config reg s) {q : Registration}
    (hq : q.weight < Dialect.bound32) (hrun : m.addWorker q s = .finished (.error e) s') :
    ((m.workers.add (.ofRegistration q (m.now s.world)) s.world).1 = .error e ∧
        Unchanged config.registry s s') ∨
      ∃ w, m.workers.add (.ofRegistration q (m.now s.world)) s.world = (.ok (), w) ∧
        (m.workers.heartbeat (.ofRegistration q (m.now s.world)) w).1 = .error e ∧
        Written config.registry (.ofRegistration q (m.now s.world)) s s' := by
  have hsized := isSized_ofRegistration (m.now s.world) hq
  change (query (m.workers.add (.ofRegistration q (m.now s.world))) >>= _) s = _ at hrun
  generalize WorkerRecord.ofRegistration q (m.now s.world) = r at hrun hsized ⊢
  rcases hadd : m.workers.add r s.world with ⟨e' | ⟨⟩, w⟩
  · rw [State.query_bind_error hadd] at hrun
    obtain ⟨he, rfl⟩ := Act.finished.inj hrun
    obtain rfl := Except.error.inj he
    exact .inl ⟨rfl, h.unchanged_of_error (.add r) (by simp) hsized.1 (perform_add hadd)⟩
  · rw [State.query_bind_ok hadd] at hrun
    obtain ⟨hafter, hclock, -⟩ := h.of_ok (.add r) (by simp) hsized.1 (perform_add hadd)
    change (query (m.workers.heartbeat r) >>= _) { s with world := w } = _ at hrun
    rcases hheard : m.workers.heartbeat r w with ⟨e' | r', w'⟩
    · rw [State.query_bind_error hheard] at hrun
      obtain ⟨he, rfl⟩ := Act.finished.inj hrun
      obtain rfl := Except.error.inj he
      obtain ⟨hend, hclock'⟩ := hafter.of_error (.heartbeat r) (by simp) hsized.2
        (perform_heartbeat hheard)
      exact .inr ⟨w, rfl, by rw [hheard], h.written hend.holds (hclock'.trans hclock)⟩
    · rw [State.query_bind_ok hheard] at hrun
      exact absurd (Act.finished.inj hrun).1 (by simp)

end Manager

/-! ## Runs -/

section Faults

variable {config : Config} {c : Scheduler (Faulty Site)} {s : State (Faulty Site)}
  {n : Configuration (State (Faulty Site))}

/-- **A membership operation that fails leaves everything as it was**, in any state of a run and
whichever calls of the store fail, except for a registration whose second write fails: what the
process keeps is as it was then as well, and so are the other workers, but the record of the worker
is that of this registration, with a lease that begins now.

**Proof sketch.** The manager changes what it keeps after its last call, and a call that fails
changes nothing. Only the first call of a registration writes anything before another call can
fail. -/
theorem membership_of_error (hb : config.registry.IsValid)
    (hc : c.stores = (Site.stores config).withFaults) (hpool : s.pool = .empty)
    (hjournal : s.journal = []) (hs : config.registry.IsGood s.world.base)
    (h : c.Reaches (Faulty.Later config.registry.lease) s n) :
    (∀ id e s', c.manager.removeWorker id n.state = .finished (.error e) s' →
        Manager.Unchanged config.registry n.state s') ∧
      (∀ id e s', c.manager.heartbeat id n.state = .finished (.error e) s' →
        Manager.Unchanged config.registry n.state s') ∧
      ∀ (q : Registration) e s', q.weight < Dialect.bound32 →
        c.manager.addWorker q n.state = .finished (.error e) s' →
        let r := WorkerRecord.ofRegistration q (c.stores.now n.state.world)
        ((c.stores.workers.add r n.state.world).1 = .error e ∧
            Manager.Unchanged config.registry n.state s') ∨
          ∃ w, c.stores.workers.add r n.state.world = (.ok (), w) ∧
            (c.stores.workers.heartbeat r w).1 = .error e ∧
            Manager.Written config.registry r n.state s' := by
  have hstore : c.stores.workers.KeepsIds fun w => config.registry.IsGood w.base := by
    rw [hc]
    refine WorkerStore.KeepsIds.withFaults ?_
    rw [Site.workers_stores]
    exact WorkerBackend.keepsIds hb
  have hidle : ∀ w w', Faulty.Later config.registry.lease w w' →
      config.registry.IsGood w.base → config.registry.IsGood w'.base := by
    rintro w w' (hsame | hlater) hgood
    · rw [hsame]
      exact hgood
    · exact WorkerBackend.isGood_later hb hlater hgood
  have hstart : s.ledger.IsCounted c.manager fun w => config.registry.IsGood w.base := by
    rw [State.ledger, hpool, hjournal]
    exact .start hs
  have hcounted : n.state.ledger.IsCounted c.manager fun w => config.registry.IsGood w.base :=
    Manager.keeps_of_leads (fun _ _ hmove => hmove.counted hstore hidle) (h.leads hstart.keyed)
      hstart
  obtain ⟨reg, hholds, hkeyed, hdeadline⟩ := hcounted.world
  have hstocks : c.manager.Stocks config reg n.state :=
    ⟨hb, congrArg Stores.workers hc, hholds, hkeyed, hdeadline⟩
  exact ⟨fun _ _ _ hrun => hstocks.removeWorker_of_error hrun,
    fun _ _ _ hrun => hstocks.heartbeat_of_error hrun,
    fun _ _ _ hq hrun => hstocks.addWorker_of_error hq hrun⟩

/-- An operation that does not wait comes to what it comes to in a run. -/
lemma Act.eq_finished_of_run {σ α : Type} {a : Act σ α} (h : ∃ x s, a = .finished x s) {x : α}
    {respond : Http.Request → Http.Outcome} (hx : (a.run respond).1 = x) :
    a = .finished x (a.run respond).2 := by
  obtain ⟨x', s, rfl⟩ := h
  obtain rfl : x' = x := hx
  rfl

namespace Scheduler

/-- Nothing has happened yet, but the next sign of life cannot be written. -/
def muted : State (Faulty Site) :=
  { initialFaulty with world :=
    { initialFaulty.world with rules := [⟨.heartbeat, none, .unavailable, 0, some 1⟩] } }

/-- The state once a worker has tried to register. -/
def stranded : State (Faulty Site) :=
  (((basic false).manager.addWorker ⟨"w", "a:1", 3⟩ muted).run fun _ => .unanswered).2

/-- The rule of the example comes up between two operations. -/
lemma reaches_muted : (basic false).Reaches (Faulty.Later (Config.registry {}).lease) initialFaulty
    ⟨muted, []⟩ :=
  .tail .refl (.idle ⟨muted.world, .inl rfl, rfl⟩)

/-- The registration of the example fails at its second write. -/
lemma addWorker_muted : (basic false).manager.addWorker ⟨"w", "a:1", 3⟩ muted = .finished
    (.error (.reported (.storeUnavailable (.other "injected worker_heartbeat")))) stranded :=
  Act.eq_finished_of_run (Manager.addWorker_finished _ _ _) (by decide +kernel)

end Scheduler

/-- A worker whose registration fails at its second write has a record although nothing else has
changed. -/
theorem membership_of_failed_registration :
    (Config.registry {}).IsValid ∧ (Config.registry {}).IsGood Scheduler.initialFaulty.world.base ∧
      (Scheduler.basic false).Reaches (Faulty.Later (Config.registry {}).lease)
        Scheduler.initialFaulty ⟨Scheduler.muted, []⟩ ∧
      Manager.Written (Config.registry {}) ⟨"w", "a:1", .epoch, 3⟩ Scheduler.muted
        Scheduler.stranded := by
  have hgood : (Config.registry {}).IsGood Scheduler.initialFaulty.world.base :=
    ⟨.empty, MemoryWorkers.holds_empty _ rfl, Registry.isKeyed_empty _ _, rfl⟩
  obtain ⟨-, -, hregister⟩ := membership_of_error (show (Config.registry {}).IsValid from trivial)
    (show (Scheduler.basic false).stores = (Site.stores {}).withFaults from rfl) rfl rfl hgood
    Scheduler.reaches_muted
  obtain ⟨hfailed, -⟩ | ⟨w, -, -, hwritten⟩ :=
    hregister ⟨"w", "a:1", 3⟩ _ _ (by decide) Scheduler.addWorker_muted
  · have hadded : ((Scheduler.basic false).stores.workers.add ⟨"w", "a:1", .epoch, 3⟩
        Scheduler.muted.world).1 = .ok () := by
      decide +kernel
    exact absurd (hadded.symm.trans hfailed) (by simp)
  · exact ⟨trivial, hgood, Scheduler.reaches_muted, hwritten⟩

/-- A registration is reported as failed, and the worker is listed and selected all the same. -/
theorem registration_fails_halfway :
    (Scheduler.basic false).Reaches (Faulty.Later (Config.registry {}).lease)
        Scheduler.initialFaulty ⟨Scheduler.muted, []⟩ ∧
      (Scheduler.basic false).manager.addWorker ⟨"w", "a:1", 3⟩ Scheduler.muted = .finished
        (.error (.reported (.storeUnavailable (.other "injected worker_heartbeat"))))
        Scheduler.stranded ∧
      ((Scheduler.basic false).stores.workers.ids Scheduler.muted.world).1 = .ok [] ∧
      ((Scheduler.basic false).stores.workers.ids Scheduler.stranded.world).1 = .ok ["w"] ∧
      ∃ u, (Scheduler.basic false).manager.selectWorker Scheduler.stranded =
          .finished (.ok (some 0)) u ∧ u.pool.contact 0 = ⟨0, "w", "a:1"⟩ := by
  refine ⟨Scheduler.reaches_muted, Scheduler.addWorker_muted, by decide +kernel, by decide +kernel,
    (((Scheduler.basic false).manager.selectWorker Scheduler.stranded).run
      fun _ => .unanswered).2, ?_, by decide +kernel⟩
  exact Act.eq_finished_of_run (Manager.selectWorker_finished _ _) (by decide +kernel)

end Faults

end ConversionScheduler
