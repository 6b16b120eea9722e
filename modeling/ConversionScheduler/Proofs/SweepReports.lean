import ConversionScheduler.Proofs.ObservedWeights
import ConversionScheduler.Proofs.SoloSweeps
/-!
# What a sweep reports

The stores of a configuration, with rules that let some of their calls fail, are stores in which
every call fails without an effect or does what it should. So a sweep judges every listed worker by
itself, and its report counts the judgements.

## Main definitions

* `FaultRule.Decide` — the rules let the calls fail in this way.
* `WorkerBackend.Records` — the records that a site has.
* `Faulty.Has` — the same for a site with rules, after some calls.
* `Faulty.Lasting` — the time goes on, and no record runs out.

## Main results

* `Faulty.serves` — the stores of a configuration serve a sweep.
* `sweep_report` — what a sweep reports, and what it does to each worker.
-/

namespace ConversionScheduler

open Manager (State)

/-! ## Rules -/

namespace FaultRule

/-- Whether rules let calls, made one after the other, fail in this way, and what they are then. -/
def Decide : List FaultRule → List StoreEvent → List FaultRule → Prop
  | rules, [], rules' => rules' = rules
  | rules, e :: events, rules' =>
    (apply e.method e.id rules).1 = e.failure ∧ Decide (apply e.method e.id rules).2 events rules'

/-- One call more. -/
lemma Decide.concat {rules rules' : List FaultRule} {events : List StoreEvent}
    (h : Decide rules events rules') (method : StoreMethod) (id : String) :
    Decide rules (events ++ [⟨method, id, (apply method id rules').1⟩])
      (apply method id rules').2 := by
  induction events generalizing rules with
  | nil =>
    obtain rfl : rules' = rules := h
    exact ⟨rfl, rfl⟩
  | cons e events ih => exact ⟨h.1, ih h.2⟩

end FaultRule

/-! ## Sites -/

namespace WorkerBackend

/-- Whether a site has these records, each under its own id, at a time at which a lease can
begin. -/
def Records (b : WorkerBackend) (R : Roster) (s : Site) : Prop :=
  ∃ reg : Registry, b.Keeps reg s ∧ ∀ id, R id = (reg.live? b.lease s.clock id).map (·.record)

variable {b : WorkerBackend} {R : Roster} {s : Site} {id : String} {r : WorkerRecord}

/-- A record is under its own id, with a weight of 32 bits. -/
lemma Records.named (h : b.Records R s) (hr : R id = some r) :
    r.id = id ∧ r.weight < Dialect.bound32 := by
  obtain ⟨reg, hkeeps, hrecords⟩ := h
  rw [hrecords] at hr
  obtain ⟨l, hl, rfl⟩ := Option.map_eq_some_iff.mp hr
  exact hkeeps.keyed id l hl

/-- The records once the record of one worker has been written or removed. -/
lemma Records.write {reg : Registry} {s' : Site}
    (hrecords : ∀ id, R id = (reg.live? b.lease s.clock id).map (·.record)) {l : Option Lease}
    (hl : l.filter (fun l => s.clock.uptime.nanos < l.written.nanos + b.lease.nanos) = l)
    (hkeeps : b.Keeps (Function.update reg id l) s') (hclock : s'.clock = s.clock) :
    b.Records (Function.update R id (l.map (·.record))) s' := by
  refine ⟨_, hkeeps, fun id' => ?_⟩
  rw [hclock, Registry.live?_update, Function.update_apply, hl]
  split
  · rfl
  · exact hrecords id'

section Calls

variable (hb : b.IsValid) (h : b.Records R s)
include hb h

/-- A look for a worker brings its record, or that there is none. -/
lemma Records.get (id : String) : ∃ s', b.store.get id s = (R.read id, s') ∧ b.Records R s' := by
  obtain ⟨reg, hkeeps, hrecords⟩ := h
  rcases hget : b.store.get id s with ⟨a, s'⟩
  obtain ⟨hanswers, hkeeps', hclock⟩ := hkeeps.perform hb rfl (.get id) rfl
    (Manager.perform_get (m := ⟨b.store, Site.now, default⟩) hget)
  refine ⟨s', ?_, reg, hkeeps', by rwa [hclock]⟩
  rw [Roster.read, hrecords, Registry.eq_of_answers_get hanswers]
  cases reg.live? b.lease s.clock id <;> rfl

/-- A listing names those that have a record. -/
lemma Records.ids : ∃ ids s', b.store.ids s = (.ok ids, s') ∧
    (∀ id, id ∈ ids ↔ (R id).isSome = true) ∧ b.Records R s' := by
  obtain ⟨reg, hkeeps, hrecords⟩ := h
  rcases hids : b.store.ids s with ⟨a, s'⟩
  obtain ⟨hanswers, hkeeps', hclock⟩ := hkeeps.perform hb rfl .ids rfl
    (Manager.perform_ids (m := ⟨b.store, Site.now, default⟩) hids)
  obtain ⟨ids, rfl, hmem⟩ := Registry.exists_of_answers_ids hanswers
  refine ⟨ids, s', rfl, fun id => ?_, reg, hkeeps', by rwa [hclock]⟩
  rw [hmem, hrecords, Option.isSome_map]

/-- A removal leaves no record. -/
lemma Records.remove (id : String) : ∃ s', b.store.remove id s = (.ok (), s') ∧
    b.Records (Function.update R id none) s' := by
  obtain ⟨reg, hkeeps, hrecords⟩ := h
  rcases hremove : b.store.remove id s with ⟨a, s'⟩
  obtain ⟨hanswers, hkeeps', hclock⟩ := hkeeps.perform hb rfl (.remove id) rfl
    (Manager.perform_remove (m := ⟨b.store, Site.now, default⟩) hremove)
  obtain rfl := Registry.eq_of_answers_remove hanswers
  exact ⟨s', rfl, Records.write hrecords rfl hkeeps' hclock⟩

/-- A sign of life leaves the record with the new time, where there is one. -/
lemma Records.heartbeat (hpos : 0 < b.lease.nanos) (hr : R id = some r) :
    ∃ s', b.store.heartbeat r s = (.ok (r.touch s.now), s') ∧
      b.Records (Function.update R id (some (r.touch s.now))) s' := by
  obtain ⟨rfl, hsized⟩ := h.named hr
  obtain ⟨reg, hkeeps, hrecords⟩ := h
  rcases hheartbeat : b.store.heartbeat r s with ⟨a, s'⟩
  obtain ⟨hanswers, hkeeps', hclock⟩ := hkeeps.perform hb rfl (.heartbeat r) (decide_eq_true hsized)
    (Manager.perform_heartbeat (m := ⟨b.store, Site.now, default⟩) hheartbeat)
  have hlive : (reg.live? b.lease s.clock r.id).isSome = true := by
    rw [hrecords] at hr
    rw [← Option.isSome_map (f := fun l : Lease => l.record), hr]
    rfl
  rw [Registry.next, if_pos hlive] at hkeeps'
  obtain rfl : a = .ok (r.touch s.now) :=
    (Registry.eq_of_answers_heartbeat hanswers).trans (if_pos hlive)
  refine ⟨s', rfl, Records.write hrecords ?_ hkeeps' hclock⟩
  rw [Option.filter_some, if_pos]
  exact decide_eq_true (Nat.lt_add_of_pos_right hpos)

end Calls

end WorkerBackend

namespace Faulty

/-- Whether a site has these records, after calls that the rules that there were at first have let
fail in this way. -/
structure Has (b : WorkerBackend) (rules : List FaultRule) (dangling : List String) (R : Roster)
    (events : List StoreEvent) (w : Faulty Site) : Prop where
  records : b.Records R w.base
  decided : FaultRule.Decide rules events w.rules
  dangling : w.dangling = dangling

/-- The time goes on, no record runs out, and neither do the rules change. -/
structure Lasting (b : WorkerBackend) (w w' : Faulty Site) : Prop where
  later : Site.Later b.lease w.base w'.base
  lasting : ∀ reg, b.Holds reg w.base →
    reg.live? b.lease w'.base.clock = reg.live? b.lease w.base.clock
  rules : w'.rules = w.rules
  dangling : w'.dangling = w.dangling

variable {α : Type} {b : WorkerBackend} {rules : List FaultRule} {dangling : List String}
  {R R' : Roster} {events : List StoreEvent} {w w' : Faulty Site}

/-- A call that the rules may let fail. -/
lemma Has.guarded (h : Has b rules dangling R events w) (method : StoreMethod) (id : String)
    {q : Query Site α} {a : Except Failure α} {s : Site} (hq : q w.base = (a, s))
    (hs : b.Records R' s) : ∃ failure w',
      Faulty.guarded method id q w = (StoreEvent.outcome failure a, w') ∧
        Has b rules dangling (.after failure R' R) (events ++ [⟨method, id, failure⟩]) w' := by
  have hdecided := h.decided.concat method id
  unfold Faulty.guarded
  rcases hrule : FaultRule.apply method id w.rules with ⟨_ | e, rules'⟩
  · rw [hrule] at hdecided
    exact ⟨none, { w with base := s, rules := rules' }, by rw [hq]; rfl, hs, hdecided,
      h.dangling⟩
  · rw [hrule] at hdecided
    exact ⟨some e, _, rfl, h.records, hdecided, h.dangling⟩

/-- As time passes without a record running out, a site has the same records. -/
lemma Has.later (hb : b.IsValid) (h : Has b rules dangling R events w) (hw : Lasting b w w') :
    Has b rules dangling R events w' := by
  obtain ⟨reg, hkeeps, hrecords⟩ := h.records
  refine ⟨⟨reg, (hkeeps.later hb hw.later).1, fun id => ?_⟩, ?_, hw.dangling.trans h.dangling⟩
  · rw [hw.lasting reg hkeeps.holds]
    exact hrecords id
  · rw [hw.rules]
    exact h.decided

/-- **The stores of a configuration serve a sweep**, if no lease ends when it begins.

**Proof sketch.** Each call is first decided by the rules and, unless one makes it fail, answered by
the store, whose registry says what the answer is. A failing call leaves the records, and the
dangling ids change only the list. -/
theorem serves {stores : Stores Site} (hb : b.IsValid) (hpos : 0 < b.lease.nanos)
    (hworkers : stores.workers = b.store) (hnow : stores.now = Site.now) (rules : List FaultRule)
    (dangling : List String) :
    stores.withFaults.workers.Serves stores.withFaults.now (Has b rules dangling)
      dangling.contains (Lasting b) where
  named h _ _ hr := (h.records.named hr).1
  get {R events w} h id := by
    obtain ⟨s, hget, hs⟩ := h.records.get hb id
    obtain ⟨failure, w', hguarded, hw'⟩ :=
      h.guarded .getWorker id (q := stores.workers.get id) (by rw [hworkers]; exact hget) hs
    have hsame : Roster.after failure R R = R := by cases failure <;> rfl
    exact ⟨failure, w', hguarded, hsame ▸ hw'⟩
  remove {R events w} h id := by
    obtain ⟨s, hremove, hs⟩ := h.records.remove hb id
    exact h.guarded .removeWorker id (q := stores.workers.remove id)
      (by rw [hworkers]; exact hremove) hs
  heartbeat {R events w} h id r hr := by
    obtain rfl := (h.records.named hr).1
    obtain ⟨s, hheartbeat, hs⟩ := h.records.heartbeat hb hpos hr
    have hsame : stores.withFaults.now w = w.base.now := congrFun hnow w.base
    rw [hsame]
    exact h.guarded .heartbeat r.id (q := stores.workers.heartbeat r)
      (by rw [hworkers]; exact hheartbeat) hs
  ids {R events w} h := by
    obtain ⟨ids, s, hids, hmem, hs⟩ := h.records.ids hb
    obtain ⟨failure, w', hguarded, hw'⟩ :=
      h.guarded .listWorkers "" (q := stores.workers.ids) (by rw [hworkers]; exact hids) hs
    have hsame : Roster.after failure R R = R := by cases failure <;> rfl
    rw [hsame] at hw'
    refine ⟨failure, if dangling.isEmpty then ids else sortIds (ids ++ dangling), w', ?_, ?_, hw'⟩
    · simp only [Stores.withFaults, hguarded]
      cases failure with
      | none => rw [← hw'.dangling]; rfl
      | some e => rfl
    · intro id
      rw [← hmem]
      cases dangling <;> simp [mem_sortIds]
  idle h hw := h.later hb hw

end Faulty

/-! ## Sweeps -/

section Sweeps

variable {config : Config} {c : Scheduler (Faulty Site)} {s : State (Faulty Site)}
  {F : String → Holding} {ids : List String} {w : Faulty Site}

/-- **A sweep judges every worker independently and reports exactly.** Let no other operation
overlap with a sweep, and no record run out during it, and let the listing with which it begins name
each worker once. Whatever is kept about the workers at first (`F`), whatever the rules let fail and
whatever becomes of the requests, the sweep comes to a report, and there are circumstances for each
worker (`own`) and a failure of the listing with which it ends (`last`), if that one fails, such
that

* the report counts the verdicts, so each listed worker is examined, failed or missing, and each
  examined one is kept or evicted for one of the two causes;
* the requests and the calls of the store are those of the judgements, one worker after the other,
  each with the outcome and the failure that the judgement was reached with;
* what is kept about each worker in the end is what its judgement leaves, except that workers which
  the last listing does not name are forgotten.

Each judgement is a function of what is kept about this worker and of its own circumstances. Being
missing means that there is no record, or that the store says so; a worker that could not be judged
keeps its record, its weight and a cached proxy; one that has been silent for too long is not asked,
and if its record can be read and removed, then nothing about it is left.

**Proof sketch.** The judgement on one worker, which shares the report, the caches and the store
with all others, changes only what is kept about this worker. So the judgements in a list without
repetitions are those that each worker gets by itself, by induction on the list. -/
theorem sweep_report (hb : config.registry.IsValid) (hpos : 0 < config.registry.lease.nanos)
    (hc : c.stores = (Site.stores config).withFaults)
    (hs : s.Accords (Faulty.Has config.registry s.world.rules s.world.dangling) F [])
    (hlisted : c.stores.workers.ids s.world = (.ok ids, w)) (hids : ids.Nodup) :
    (c.manager.sweep s).Inquires (fun s => c.stores.now s.world)
      (State.Idles (Faulty.Lasting config.registry)) fun log x t =>
        ∃ report own last, x = .ok report ∧
          let J := c.manager.judgements (c.stores.now w) F own
          let left := fun id =>
            (Manager.settled J ids F id).pruned (s.world.dangling.contains id) last
          report.Counts (ids.map fun id => (J id).verdict) ∧
            log = ids.flatMap (fun id => (J id).inquiries (own id)) ∧
            t.Accords (Faulty.Has config.registry s.world.rules s.world.dangling) left
              ([⟨.listWorkers, "", none⟩] ++ ids.flatMap (fun id => (J id).calls) ++
                [⟨.listWorkers, "", last⟩]) ∧
            ∀ id ∈ ids,
              ((J id).verdict = .ok .missing ↔ ((own id).reading = none ∧ (F id).record = none) ∨
                ∃ id', (own id).reading = some (.workerNotFound id')) ∧
              (∀ e, (J id).verdict = .error e → (left id).record = (F id).record ∧
                (left id).weight = (F id).weight ∧
                ((F id).proxy.isSome = true → (left id).proxy.isSome = true)) ∧
              ∀ r, (F id).record = some r →
                r.isStale (c.stores.now w) c.settings.staleThreshold = true →
                (J id).request? = none ∧
                  ((own id).reading = none → (own id).removal = none → left id = .nothing) := by
  have hserves := Faulty.serves hb hpos (Site.workers_stores config) rfl s.world.rules
    s.world.dangling
  rw [← hc] at hserves
  refine (Manager.inquires_sweep (m := c.manager) hserves hs hlisted hids).mono ?_
  rintro log x t ⟨report, own, last, hreport, hcounts, hlog, haccords⟩
  refine ⟨report, own, last, hreport, hcounts, hlog, haccords, fun id hid => ?_⟩
  have hsettled : Manager.settled (c.manager.judgements (c.stores.now w) F own) ids F id =
      (c.manager.judgements (c.stores.now w) F own id).left := if_pos hid
  refine ⟨Holding.missing_iff, fun e he => ?_, fun r hr hstale => ?_⟩
  · obtain ⟨hrecord, hweight, hproxy⟩ := Holding.judge_of_error he
    have hnamed := ((hs.listed (m := c.manager) hserves hlisted).2 id).mp hid
    rw [← hrecord] at hnamed
    simp only [hsettled, Manager.judgements]
    rw [Holding.pruned_eq_self hnamed]
    exact ⟨hrecord, hweight, hproxy⟩
  · have hsilent : r.isStale (c.stores.now w) c.manager.settings.staleThreshold = true := hstale
    obtain ⟨hrequest, hgone⟩ := Holding.judge_of_stale hr hsilent
    refine ⟨hrequest, fun hreading hremoval => ?_⟩
    simp only [hsettled, Manager.judgements]
    rw [(hgone hreading hremoval).2, Holding.pruned_nothing]

end Sweeps

namespace Scheduler

/-- A worker that has been silent for two minutes. -/
def silent : WorkerRecord := ⟨"a", "a:1", .epoch, 3⟩

/-- A worker whose record is there but cannot be read. -/
def unreadable : WorkerRecord := ⟨"b", "b:1", .epoch, 1⟩

/-- What is kept about the two workers. The first one has a proxy and a weight as well. -/
def pair (id : String) : Holding :=
  if id = "a" then ⟨some silent, some (.ofRecord silent), some 3⟩
  else if id = "b" then ⟨some unreadable, none, none⟩
  else .nothing

/-- The site once both have been written. -/
def site : Site :=
  ((Config.registry {}).store.add unreadable
    ((Config.registry {}).store.add silent
      (initial.world.at (initial.world.clock.advance (.ofSeconds 120)))).2).2

/-- The state in which the given things are kept. -/
def paired : State (Faulty Site) where
  world := ⟨site, [⟨.getWorker, some "b", .unavailable, 0, none⟩], []⟩
  pool := (Pool.empty.resolve silent).2
  balancer := .weighted 0 (Table.empty.insert "a" 3)

/-- The site of the example has the records of its two workers. -/
lemma records_site : (Config.registry {}).Records (fun id => (pair id).record) site := by
  have hb : (Config.registry {}).IsValid := trivial
  have hempty : (Config.registry {}).Keeps .empty
      (initial.world.at (initial.world.clock.advance (.ofSeconds 120))) :=
    ⟨MemoryWorkers.holds_empty _ rfl, Registry.isKeyed_empty _ _, rfl⟩
  obtain ⟨-, hsilent, hclock⟩ := hempty.perform hb rfl (.add silent) rfl rfl
  obtain ⟨-, hboth, hclock'⟩ := hsilent.perform hb rfl (.add unreadable) rfl rfl
  refine ⟨_, hboth, fun id => ?_⟩
  by_cases hunreadable : id = "b"
  · subst hunreadable
    decide +kernel
  · by_cases hsilent : id = "a"
    · subst hsilent
      decide +kernel
    · simp [pair, hunreadable, hsilent, Holding.nothing, Registry.next, Registry.live?,
        Registry.empty, silent, unreadable]

/-- In the example, the proxy and the weight of the first worker are kept as they are said to be. -/
lemma accords_paired : paired.Accords
    (Faulty.Has (Config.registry {}) paired.world.rules paired.world.dangling) pair [] where
  stored := ⟨records_site, rfl, rfl⟩
  keyed := Pool.isKeyed_empty.resolve silent
  proxy id := by
    by_cases hsilent : id = "a"
    · subst hsilent
      decide +kernel
    · have hother : paired.pool.lookup? id = Pool.empty.lookup? id :=
        Pool.isKeyed_empty.lookup?_resolve hsilent
      rw [hother, pair, if_neg hsilent]
      split <;> rfl
  weight id := by
    show (Table.empty.insert "a" 3).get? id = _
    rw [Table.get?_insert, pair]
    split
    · rfl
    · split <;> rfl

end Scheduler

/-- The worker that has been silent for too long is evicted, and the one whose record cannot be read
is kept. -/
theorem sweep_report_of_two :
    (Config.registry {}).IsValid ∧ 0 < (Config.registry {}).lease.nanos ∧
      Scheduler.paired.Accords (Faulty.Has (Config.registry {}) Scheduler.paired.world.rules [])
        Scheduler.pair [] ∧
      ∃ t, (Scheduler.basic false).manager.sweep Scheduler.paired =
          .finished (.ok ⟨1, 1, 0, 1⟩) t ∧
        ∃ own last,
          let J := (Scheduler.basic false).manager.judgements Scheduler.site.now Scheduler.pair own
          (⟨1, 1, 0, 1⟩ : SweepReport).Counts [(J "a").verdict, (J "b").verdict] ∧
            (own "a").reading = none ∧ (J "a").request? = none ∧
            t.Accords (Faulty.Has (Config.registry {}) Scheduler.paired.world.rules [])
              (fun id => (Manager.settled J ["a", "b"] Scheduler.pair id).pruned false last)
              ([⟨.listWorkers, "", none⟩] ++ ["a", "b"].flatMap (fun id => (J id).calls) ++
                [⟨.listWorkers, "", last⟩]) := by
  have hpos : 0 < (Config.registry {}).lease.nanos := by decide +kernel
  have hlisted : (Scheduler.basic false).stores.workers.ids Scheduler.paired.world =
      (.ok ["a", "b"], Scheduler.paired.world) := rfl
  have hfinished : (Scheduler.basic false).manager.sweep Scheduler.paired =
      .finished (.ok ⟨1, 1, 0, 1⟩)
        (((Scheduler.basic false).manager.sweep Scheduler.paired).run fun _ => .unanswered).2 :=
    Act.eq_finished_of_run (Act.finished_of_request?_eq_none (by decide +kernel))
      (by decide +kernel)
  have hsweep := sweep_report (show (Config.registry {}).IsValid from trivial) hpos
    (show (Scheduler.basic false).stores = (Site.stores {}).withFaults from rfl)
    Scheduler.accords_paired hlisted (by decide)
  rw [hfinished] at hsweep
  obtain ⟨report, own, last, hreport, hcounts, -, haccords, hids⟩ := hsweep
  obtain rfl := Except.ok.inj hreport
  obtain ⟨-, -, hsilent⟩ := hids "a" (by decide)
  have hdecided := haccords.stored.decided
  have hread : (own "a").reading = none := by
    obtain ⟨-, hread, -⟩ : _ ∧ _ ∧ _ := hdecided
    exact hread.symm
  exact ⟨trivial, hpos, Scheduler.accords_paired, _, hfinished, own, last, hcounts, hread,
    (hsilent Scheduler.silent rfl (by decide +kernel)).1, haccords⟩

end ConversionScheduler
