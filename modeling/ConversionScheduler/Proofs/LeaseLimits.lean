import ConversionScheduler.Proofs.Absences
/-!
# How long a lease can be

A record is written with a lease, whose length is configured. In memory its end is a reading of the
clock, which has a last one; Redis keeps no key for longer than a certain number of seconds. A
configuration is checked for neither of them. If it passes the check, then this is all that can
stand in the way of a registration and of a sign of life.

## Main definitions

* `Config.AdmitsLease` — the condition for a lease to begin.
* `WorkerBackend.refusal` — what comes of a record whose lease cannot begin.

## Main results

* `Manager.addWorker_ok_iff`, `Manager.heartbeat_ok_iff` — the calls of the store that are needed.
* `WorkerBackend.add_of_not_canLease` — nothing can be written if a lease cannot begin.
* `Manager.heartbeat_iff_canLease` — when a sign of life can be given.
* `registration_runs_iff` — when a worker can register and give signs of life.
-/

namespace ConversionScheduler

open Manager (State)
open Manager.State (query)
open Redis (Server Connection Dialogue)

/-! ## The manager -/

namespace Manager

variable {ω : Type} {m : Manager ω} {s : State ω} {w' : ω}

/-- What begins with a call of a store succeeds if the call does, and what follows. -/
lemma State.query_bind_finished_iff {α β : Type} {q : Query ω α} {f : α → Operation (State ω) β} :
    (∃ x u, (query q >>= f) s = .finished (.ok x) u ∧ u.world = w') ↔
      ∃ a w, q s.world = (.ok a, w) ∧
        ∃ x u, f a { s with world := w } = .finished (.ok x) u ∧ u.world = w' := by
  rcases hq : q s.world with ⟨e | a, w⟩
  · rw [State.query_bind_error hq]
    simp
  · rw [State.query_bind_ok hq]
    constructor
    · exact fun h => ⟨a, w, rfl, h⟩
    · rintro ⟨a', v, hsame, h⟩
      obtain ⟨ha, rfl⟩ := Prod.mk.inj hsame
      obtain rfl := Except.ok.inj ha
      exact h

/-- A registration takes two calls of the store. -/
lemma addWorker_ok_iff {q : Registration} :
    (∃ n u, m.addWorker q s = .finished (.ok n) u ∧ u.world = w') ↔
      ∃ w r, m.workers.add (.ofRegistration q (m.now s.world)) s.world = (.ok (), w) ∧
        m.workers.heartbeat (.ofRegistration q (m.now s.world)) w = (.ok r, w') := by
  constructor
  · intro h
    obtain ⟨⟨⟩, w, hadd, h⟩ := State.query_bind_finished_iff.mp h
    obtain ⟨r, v, hheard, n, u, hrun, rfl⟩ := State.query_bind_finished_iff.mp h
    obtain ⟨-, rfl⟩ := Act.finished.inj hrun
    exact ⟨w, r, hadd, hheard⟩
  · rintro ⟨w, r, hadd, hheard⟩
    exact State.query_bind_finished_iff.mpr
      ⟨(), w, hadd, State.query_bind_finished_iff.mpr ⟨r, w', hheard, _, _, rfl, rfl⟩⟩

/-- So does a sign of life. -/
lemma heartbeat_ok_iff {id : String} :
    (∃ r u, m.heartbeat id s = .finished (.ok r) u ∧ u.world = w') ↔
      ∃ r₀ w r, m.workers.get id s.world = (.ok r₀, w) ∧
        m.workers.heartbeat r₀ w = (.ok r, w') := by
  constructor
  · intro h
    obtain ⟨r₀, w, hget, h⟩ := State.query_bind_finished_iff.mp h
    obtain ⟨r, v, hheard, n, u, hrun, rfl⟩ := State.query_bind_finished_iff.mp h
    obtain ⟨-, rfl⟩ := Act.finished.inj hrun
    exact ⟨r₀, w, r, hget, hheard⟩
  · rintro ⟨r₀, w, r, hget, hheard⟩
    exact State.query_bind_finished_iff.mpr
      ⟨r₀, w, hget, State.query_bind_finished_iff.mpr ⟨r, w', hheard, _, _, rfl, rfl⟩⟩

end Manager

/-! ## The stores -/

namespace WorkerBackend

variable {b : WorkerBackend} {reg : Registry} {s s' : Site} {r r' : WorkerRecord}

/-- What comes of a record whose lease cannot begin. -/
def refusal : WorkerBackend → Failure
  | memory _ => .crashed
  | redis _ =>
    .reported (Connection.refused .pipeline "ERR invalid expire time in 'set' command")

/-- Nothing can be written if a lease cannot begin.

**Proof sketch.** There is no deadline in the process, which ends it, or the expiry is longer than
the server takes, and then the whole transaction is answered with that error. -/
lemma add_of_not_canLease (h : ¬ b.CanLease s.clock) (hholds : b.Holds reg s) (r : WorkerRecord) :
    ∃ s', b.store.add r s = (.error b.refusal, s') := by
  cases b with
  | memory ttl =>
    have hnone : s.clock.deadline? ttl = none := Option.not_isSome_iff_eq_none.mp h
    refine ⟨s, ?_⟩
    simp only [store, Site.memoryWorkers, Site.onWorkers, Query.onPart, MemoryWorkers.add, hnone]
    rfl
  | redis w =>
    have hlong : Server.maxExpiry ≤ w.expiry := Nat.le_of_not_lt h
    obtain ⟨reply, server', hsadd⟩ : ∃ reply server', s.line.server.execute
        (.sadd w.setKey [r.id]) = (reply, server') := ⟨_, _, rfl⟩
    have hexec : s.line.server.executeAll
        [.set (w.infoKey r.id) (RedisWorkers.payload r) (some w.expiry) false,
          .sadd w.setKey [r.id]] =
        ([.error "ERR invalid expire time in 'set' command", reply], server') := by
      simp only [Server.executeAll, Server.execute, Server.set_of_overlong hlong] at hsadd ⊢
      rw [hsadd]
    have hrun : (w.add r).run s.line.server = _ := Dialogue.run_transact_error hexec rfl
    obtain ⟨sent, hsent⟩ := Site.onLine_of_isPlain (fun _ => w.add r) hholds.1
    exact ⟨_, hsent.trans (by rw [hrun]; rfl)⟩

/-- If a record could be written before, then a sign of life can be written only if a lease can
begin. -/
lemma canLease_of_renewed {now : Clock} (hbefore : b.CanLease now) {id : String}
    {a : Except Failure WorkerRecord} {w : Site} (hget : b.store.get id s = (a, w))
    (h : b.store.heartbeat r w = (.ok r', s')) : b.CanLease s.clock := by
  cases b with
  | redis w => exact hbefore
  | memory ttl =>
    have hclock : w.clock = s.clock := (congrArg (fun x => x.2.clock) hget).symm
    show (s.clock.deadline? ttl).isSome = true
    rw [← hclock]
    cases hdeadline : w.clock.deadline? ttl with
    | some t => rfl
    | none =>
      simp only [store, Site.memoryWorkers, Site.onWorkers, Query.onPart, MemoryWorkers.heartbeat,
        hdeadline] at h
      cases hentry : (w.workers.get? r.id).filter (·.isLive w.clock) <;> simp [hentry] at h

/-- A store of either kind still holds the registry later. -/
lemma holds_at (h : b.Holds reg s) {c : Clock} (hc : s.clock.uptime.nanos ≤ c.uptime.nanos) :
    b.Holds reg (s.at c) := by
  cases b with
  | memory ttl => exact (MemoryWorkers.refines ttl).later c h hc
  | redis w => exact ⟨h.1, h.2.later hc⟩

/-- A record can be written and renewed at once if a lease can begin, and does not end at once.

**Proof sketch.** Both calls are answered as the registry answers them. The record written first is
live at once, since its lease is longer than nothing, so the second call renews it. -/
lemma register_of_canLease (h : b.CanLease s.clock) (hpos : 0 < b.lease.nanos)
    (hholds : b.Holds reg s) (hadd : (WorkerCall.add r).isSized = true)
    (hheartbeat : (WorkerCall.heartbeat r).isSized = true) :
    ∃ w r' w', b.store.add r s = (.ok (), w) ∧ b.store.heartbeat r w = (.ok r', w') ∧
      b.Holds (Function.update reg r.id (some (.start s.clock (r.touch s.clock.wall)))) w' ∧
      w'.clock = s.clock := by
  rcases hrun : b.store.add r s with ⟨a, w⟩
  obtain ⟨hanswers, hwritten, hclock⟩ := answers_of_canLease h hholds (.add r) hadd
    (Manager.perform_add (m := ⟨b.store, Site.now, default⟩) hrun)
  obtain rfl := Registry.eq_of_answers_add hanswers
  rcases hrun' : b.store.heartbeat r w with ⟨a, w'⟩
  obtain ⟨hanswers', hrenewed, hclock'⟩ := answers_of_canLease (hclock.symm ▸ h) hwritten
    (.heartbeat r) hheartbeat (Manager.perform_heartbeat (m := ⟨b.store, Site.now, default⟩) hrun')
  have hlive : ((reg.next b.lease s.clock (.add r)).live? b.lease w.clock r.id).isSome = true := by
    rw [Registry.next, Registry.live?_update, if_pos rfl, Option.filter_some, hclock, if_pos]
    · rfl
    · exact decide_eq_true (Nat.lt_add_of_pos_right hpos)
  obtain rfl := (Registry.eq_of_answers_heartbeat hanswers').trans (if_pos hlive)
  obtain ⟨-, hnext⟩ := Registry.next_of_heartbeat hanswers'
  rw [hnext, Registry.next, Function.update_idem, hclock] at hrenewed
  exact ⟨w, _, w', rfl, hrun', hrenewed, hclock'.trans hclock⟩

/-- A record that is there can be renewed if a lease can begin. -/
lemma renew_of_canLease (h : b.CanLease s.clock) (hholds : b.Holds reg s) {id : String} {l : Lease}
    (hlive : reg.live? b.lease s.clock id = some l) (hid : l.record.id = id)
    (hsized : (WorkerCall.heartbeat l.record).isSized = true) :
    ∃ w r' w', b.store.get id s = (.ok l.record, w) ∧
      b.store.heartbeat l.record w = (.ok r', w') := by
  rcases hrun : b.store.get id s with ⟨a, w⟩
  obtain ⟨hanswers, hread, hclock⟩ := answers_of_canLease h hholds (.get id) rfl
    (Manager.perform_get (m := ⟨b.store, Site.now, default⟩) hrun)
  obtain rfl : a = .ok l.record := by rw [Registry.eq_of_answers_get hanswers, hlive]
  rcases hrun' : b.store.heartbeat l.record w with ⟨a, w'⟩
  obtain ⟨hanswers', -⟩ := answers_of_canLease (hclock.symm ▸ h) hread (.heartbeat l.record) hsized
    (Manager.perform_heartbeat (m := ⟨b.store, Site.now, default⟩) hrun')
  have hrenewed := Registry.eq_of_answers_heartbeat hanswers'
  rw [Registry.next, hclock, hid, hlive] at hrenewed
  exact ⟨w, _, w', rfl, hrun'.trans (congrArg (·, w') hrenewed)⟩

end WorkerBackend

/-! ## The configuration -/

/-- A condition is checked by whether it holds. -/
lemma require_eq_ok_iff {p : Bool} {f : ConfigFault} : require p f = .ok () ↔ p = true := by
  cases p <;> simp [require]

/-- Two checks one after the other pass only if both do. -/
lemma checks_of_bind {x : Except ConfigFault Unit} {f : Unit → Except ConfigFault Unit}
    (h : (x >>= f) = .ok ()) : x = .ok () ∧ f () = .ok () := by
  cases x with
  | error e => cases h
  | ok a => exact ⟨rfl, h⟩

namespace Config

/-- Whether a lease can begin at a time, as the workers are configured: in memory its end has to be
a reading of the clock, and in Redis it must not be too long. -/
def AdmitsLease (c : Config) (now : Clock) : Prop :=
  match c.workerStore.backend with
  | .memory => now.uptime.wholeSeconds + c.redis.workerTtlSeconds < 9223372036854775808
  | .redis => c.redis.workerTtlSeconds < Server.maxExpiry

variable {c : Config}

/-- A configuration that passes the check has leases that last, and no threshold above them.

**Proof sketch.** The check is a series of checks, each of which has to pass; the one of the leases
is among them whichever backend is configured. -/
lemma validateTtl_of_validate (h : c.validate = .ok ()) :
    0 < c.redis.workerTtlSeconds ∧
      c.scheduler.staleThresholdSeconds ≤ c.redis.workerTtlSeconds := by
  have hsections := (checks_of_bind (checks_of_bind h).2).2
  have httl : c.validateTtl = .ok () := by
    dsimp only at hsections
    split at hsections
    · exact (checks_of_bind (checks_of_bind hsections).2).1
    · exact (checks_of_bind hsections).1
  obtain ⟨hpos, hbelow⟩ := checks_of_bind httl
  exact ⟨of_decide_eq_true (require_eq_ok_iff.mp hpos),
    of_decide_eq_true (require_eq_ok_iff.mp hbelow)⟩

/-- A configuration that passes the check has leases of at least a second. -/
lemma workerTtlSeconds_pos (h : c.validate = .ok ()) : 0 < c.redis.workerTtlSeconds :=
  (validateTtl_of_validate h).1

/-- The condition for a lease to begin, in terms of the configuration. -/
lemma canLease_registry (h : 0 < c.redis.workerTtlSeconds) (now : Clock) :
    c.registry.CanLease now ↔ c.AdmitsLease now := by
  unfold registry AdmitsLease
  cases c.workerStore.backend with
  | memory =>
    show ((now.deadline? c.redis.workerTtl).isSome = true) ↔ _
    have hseconds : Duration.wholeSeconds ⟨now.uptime.nanos + c.redis.workerTtl.nanos⟩ =
        now.uptime.wholeSeconds + c.redis.workerTtlSeconds := by
      simp only [Duration.wholeSeconds, RedisConfig.workerTtl, Duration.ofSeconds]
      omega
    simp only [Clock.deadline?, hseconds]
    split <;> simp_all
  | redis =>
    show max (Duration.wholeSeconds c.redis.workerTtl) 1 < _ ↔ _
    have hseconds : max (Duration.wholeSeconds c.redis.workerTtl) 1 = c.redis.workerTtlSeconds := by
      simp only [Duration.wholeSeconds, RedisConfig.workerTtl, Duration.ofSeconds]
      omega
    rw [hseconds]

/-- In memory, a lease can begin if its end is a reading of the clock. -/
lemma deadline?_isSome_iff (hmemory : c.workerStore.backend = .memory)
    (h : 0 < c.redis.workerTtlSeconds) (now : Clock) :
    (now.deadline? c.redis.workerTtl).isSome = true ↔ c.AdmitsLease now := by
  have hcan := canLease_registry h now
  rwa [registry, hmemory] at hcan

/-- The workers that are configured to be in memory. -/
lemma memoryWorkers_stores (hmemory : c.workerStore.backend = .memory) :
    (Site.stores c).workers = Site.memoryWorkers c.redis.workerTtl := by
  simp only [Site.stores, hmemory]

/-- The length of a lease, in terms of the configuration. -/
lemma lease_registry (h : 0 < c.redis.workerTtlSeconds) :
    c.registry.lease = .ofSeconds c.redis.workerTtlSeconds := by
  unfold registry
  cases c.workerStore.backend with
  | memory => rfl
  | redis =>
    show Duration.ofSeconds (max (Duration.wholeSeconds c.redis.workerTtl) 1) = _
    simp only [Duration.wholeSeconds, RedisConfig.workerTtl, Duration.ofSeconds]
    congr 2
    omega

end Config

/-! ## Registrations and signs of life -/

namespace Manager

variable {b : WorkerBackend} {m : Manager Site} {s : State Site} {reg : Registry} {q : Registration}
  (hm : m.workers = b.store) (hholds : b.Holds reg s.world)

include hm hholds

/-- A worker can register if a lease can begin, and then has one from now on. -/
lemma addWorker_of_canLease (h : b.CanLease s.world.clock) (hpos : 0 < b.lease.nanos)
    (hq : q.weight < Dialect.bound32) :
    ∃ n u l, m.addWorker q s = .finished (.ok n) u ∧ u.world.clock = s.world.clock ∧
      b.Holds (Function.update reg q.id (some l)) u.world ∧ l.written = s.world.clock.uptime ∧
      l.record.id = q.id ∧ (WorkerCall.heartbeat l.record).isSized = true := by
  have hsized := isSized_ofRegistration (m.now s.world) hq
  obtain ⟨w, r, w', hadd, hheard, hwritten, hclock⟩ :=
    WorkerBackend.register_of_canLease h hpos hholds hsized.1 hsized.2
  rw [← hm] at hadd hheard
  obtain ⟨n, u, hrun, rfl⟩ := addWorker_ok_iff.mpr ⟨w, r, hadd, hheard⟩
  exact ⟨n, u, _, hrun, hclock, hwritten, rfl, rfl, hsized.2⟩

/-- No worker can register if a lease cannot begin. -/
lemma addWorker_of_not_canLease (h : ¬ b.CanLease s.world.clock) :
    ∃ u, m.addWorker q s = .finished (.error b.refusal) u := by
  obtain ⟨w, hadd⟩ := WorkerBackend.add_of_not_canLease h hholds
    (.ofRegistration q (m.now s.world))
  rw [← hm] at hadd
  exact ⟨_, addWorker_of_refused hadd⟩

/-- A worker whose record is there can give a sign of life exactly if a lease can begin. -/
lemma heartbeat_iff_canLease {now : Clock} (hbefore : b.CanLease now) {id : String} {l : Lease}
    (hlive : reg.live? b.lease s.world.clock id = some l) (hid : l.record.id = id)
    (hsized : (WorkerCall.heartbeat l.record).isSized = true) :
    (∃ r u, m.heartbeat id s = .finished (.ok r) u) ↔ b.CanLease s.world.clock := by
  constructor
  · rintro ⟨r, u, hheard⟩
    obtain ⟨r₀, w, r, hget, hrenewed⟩ := heartbeat_ok_iff.mp ⟨r, u, hheard, rfl⟩
    rw [hm] at hget hrenewed
    exact WorkerBackend.canLease_of_renewed hbefore hget hrenewed
  · intro h
    obtain ⟨w, r, w', hget, hrenewed⟩ :=
      WorkerBackend.renew_of_canLease h hholds hlive hid hsized
    rw [← hm] at hget hrenewed
    obtain ⟨r, u, hheard, -⟩ := heartbeat_ok_iff.mpr ⟨_, w, r, hget, hrenewed⟩
    exact ⟨r, u, hheard⟩

end Manager

section Registrations

variable {config : Config} {c : Scheduler Site} {s : State Site} {reg : Registry} {q : Registration}

/-- **When a worker can register and give signs of life**, for a configuration that passes the check
and a store of either kind that does not fail: it can register exactly if a lease can begin at the
time, and, until that lease has ended, it can give a sign of life exactly if a lease can begin at
the time of this. If it cannot register, then the process crashes, or Redis has refused the time to
live.

**Proof sketch.** The check leaves no lease without a length. A store of either kind answers as the
registry does for as long as leases can begin, and the record is there until its lease has ended. If
no lease can begin, then nothing can be written. -/
theorem registration_runs_iff (hconfig : config.validate = .ok ())
    (hc : c.stores = Site.stores config) (hs : config.registry.Holds reg s.world)
    (hq : q.weight < Dialect.bound32) :
    ((∃ n u, c.manager.addWorker q s = .finished (.ok n) u) ↔
        config.AdmitsLease s.world.clock) ∧
      (¬ config.AdmitsLease s.world.clock → ∃ u,
        c.manager.addWorker q s = .finished (.error config.registry.refusal) u) ∧
      ∀ n u, c.manager.addWorker q s = .finished (.ok n) u → ∀ now : Clock,
        s.world.clock.uptime.nanos ≤ now.uptime.nanos →
        now.uptime.nanos < s.world.clock.uptime.nanos +
          (Duration.ofSeconds config.redis.workerTtlSeconds).nanos →
        ((∃ r v, c.manager.heartbeat q.id { u with world := u.world.at now } =
          .finished (.ok r) v) ↔ config.AdmitsLease now) := by
  have hseconds := Config.workerTtlSeconds_pos hconfig
  have hcan := Config.canLease_registry hseconds
  have hlease := Config.lease_registry hseconds
  have hpos : 0 < config.registry.lease.nanos := by
    rw [hlease]
    exact Nat.mul_pos hseconds (by decide)
  have hm := Scheduler.workers_manager hc
  have hrefused : ¬ config.AdmitsLease s.world.clock → ∃ u,
      c.manager.addWorker q s = .finished (.error config.registry.refusal) u :=
    fun hnone => Manager.addWorker_of_not_canLease hm hs fun h => hnone ((hcan _).mp h)
  have hadmitted : ∀ {n u}, c.manager.addWorker q s = .finished (.ok n) u →
      config.AdmitsLease s.world.clock := by
    intro n u hrun
    by_contra hnone
    obtain ⟨u', hrefused⟩ := hrefused hnone
    exact absurd (Act.finished.inj (hrun.symm.trans hrefused)).1 (by simp)
  refine ⟨⟨fun ⟨n, u, hrun⟩ => hadmitted hrun, fun hadmits => ?_⟩, hrefused,
    fun n u hrun now hle hlt => ?_⟩
  · obtain ⟨n, u, -, hrun, -⟩ :=
      Manager.addWorker_of_canLease hm hs ((hcan _).mpr hadmits) hpos hq
    exact ⟨n, u, hrun⟩
  have hbefore := (hcan _).mpr (hadmitted hrun)
  obtain ⟨n', u', l, hrun', hclock, hholds, hwritten, hid, hsized⟩ :=
    Manager.addWorker_of_canLease hm hs hbefore hpos hq
  obtain rfl : u = u' := (Act.finished.inj (hrun.symm.trans hrun')).2
  have hlater : config.registry.Holds (Function.update reg q.id (some l)) (u.world.at now) :=
    WorkerBackend.holds_at hholds (by rwa [hclock])
  have hlive : Registry.live? config.registry.lease now (Function.update reg q.id (some l)) q.id =
      some l := by
    rw [Registry.live?_update, if_pos rfl, Option.filter_some, if_pos]
    rw [hwritten, hlease]
    exact decide_eq_true hlt
  exact (Manager.heartbeat_iff_canLease (s := { u with world := u.world.at now }) hm hlater hbefore
    hlive hid hsized).trans (hcan now)

end Registrations

/-! ### Leases of any length -/

namespace Scheduler

/-- A configuration in which only the length of leases is not the usual one. -/
def leased (backend : StoreBackend) (seconds : Nat) : Config where
  workerStore := { backend := backend }
  redis := { workerTtlSeconds := seconds }

/-- The scheduler of a configuration. -/
def serving (config : Config) : Scheduler Site := ⟨Site.stores config, strict.settings, false⟩

/-- A second after the clock was started, when nothing has happened yet. -/
def afterOneSecond : State Site := { initial with world := initial.world.at ⟨.epoch, .ofSeconds 1⟩ }

/-- Where nothing has happened, no worker is held, in a store of either kind. -/
lemma holds_afterOneSecond (config : Config) :
    config.registry.Holds .empty afterOneSecond.world := by
  refine WorkerBackend.holds_empty ?_
  unfold Config.registry
  cases config.workerStore.backend with
  | memory => rfl
  | redis => exact ⟨⟨rfl, rfl⟩, rfl, fun _ => rfl⟩

/-- No worker can register a second after the start, if no lease can begin then. -/
lemma refused_afterOneSecond {config : Config} (q : Registration)
    (h : ¬ config.registry.CanLease afterOneSecond.world.clock) :
    ∃ u, (serving config).manager.addWorker q afterOneSecond =
      .finished (.error config.registry.refusal) u :=
  Manager.addWorker_of_not_canLease (Site.workers_stores config) (holds_afterOneSecond config) h

end Scheduler

/-- A worker cannot register, although the configuration passes the check: in memory, with a lease
that ends after the last reading of the clock, and in Redis, with the shortest that it refuses. -/
theorem registration_of_overlong_lease :
    ((Scheduler.leased .memory 9223372036854775807).validate = .ok () ∧
      ∃ u, (Scheduler.serving (Scheduler.leased .memory 9223372036854775807)).manager.addWorker
        ⟨"w", "a:1", 1⟩ Scheduler.afterOneSecond = .finished (.error .crashed) u) ∧
    (Scheduler.leased .redis 9223372036854775).validate = .ok () ∧
      ∃ u, (Scheduler.serving (Scheduler.leased .redis 9223372036854775)).manager.addWorker
        ⟨"w", "a:1", 1⟩ Scheduler.afterOneSecond = .finished (.error (.reported (.storeUnavailable
          (.refused .pipeline "ERR invalid expire time in 'set' command")))) u := by
  refine ⟨⟨by decide +kernel, Scheduler.refused_afterOneSecond _ ?_⟩, by decide +kernel,
    Scheduler.refused_afterOneSecond _ ?_⟩
  · show ¬ (Clock.deadline? _ _).isSome = true
    decide +kernel
  · show ¬ (_ : Nat) < _
    decide +kernel

/-- With a lease that is almost as long, a worker can register at the first second and give a sign
of life at the second one, but not at the third. -/
theorem registration_runs_until :
    let config := Scheduler.leased .memory 9223372036854775805
    config.validate = .ok () ∧
      ∃ n u, (Scheduler.serving config).manager.addWorker ⟨"w", "a:1", 1⟩ Scheduler.afterOneSecond =
          .finished (.ok n) u ∧
        (∃ r v, (Scheduler.serving config).manager.heartbeat "w"
          { u with world := u.world.at ⟨.epoch, .ofSeconds 2⟩ } = .finished (.ok r) v) ∧
        ¬ ∃ r v, (Scheduler.serving config).manager.heartbeat "w"
          { u with world := u.world.at ⟨.epoch, .ofSeconds 3⟩ } = .finished (.ok r) v := by
  intro config
  have hconfig : config.validate = .ok () := by decide +kernel
  obtain ⟨hregister, -, hheartbeat⟩ := registration_runs_iff (q := ⟨"w", "a:1", 1⟩) hconfig
    (show (Scheduler.serving config).stores = _ from rfl) (Scheduler.holds_afterOneSecond config)
    (by decide)
  obtain ⟨n, u, hrun⟩ := hregister.mpr (show (_ : Nat) < _ by decide)
  refine ⟨hconfig, n, u, hrun, ?_, ?_⟩
  · exact (hheartbeat n u hrun ⟨.epoch, .ofSeconds 2⟩ (by decide) (by decide)).mpr
      (show (_ : Nat) < _ by decide)
  · exact fun h => absurd
      ((hheartbeat n u hrun ⟨.epoch, .ofSeconds 3⟩ (by decide) (by decide)).mp h)
      (show ¬ (_ : Nat) < _ by decide)

end ConversionScheduler
