import ConversionScheduler.Proofs.MemoryRegistry
import ConversionScheduler.Proofs.RedisRegistry
/-!
# The two stores of workers agree

A store that is started empty holds the empty registry, in memory as in Redis. Since both answer
every call as the registry does, and the registry leaves no choice, they give the same answers.

## Main definitions

* `WorkerBackend` — a store of either kind.

## Main results

* `WorkerBackend.refines` — a store of either kind answers as the registry does.
* `worker_stores_agree` — the same answers in memory and in Redis, which are those of the registry.
-/

namespace ConversionScheduler

open Redis (Server)

namespace Registry

/-- The registry without workers. -/
def empty : Registry := fun _ => none

end Registry

/-- Empty memory holds the empty registry. -/
lemma MemoryWorkers.holds_empty (ttl : Duration) {s : Site} (h : s.workers = .empty) :
    MemoryWorkers.Holds ttl .empty s where
  proper := h ▸ Table.isProper_empty
  live id := by
    rw [h]
    rfl

/-- Whether nothing is kept under the keys of a connection. -/
def Redis.Server.IsVacant (server : Server) (c : Redis.Connection) : Prop :=
  ∀ suffix, server.entries.get? (c.key suffix) = none

/-- A server without keys of the namespace holds the empty registry. -/
lemma RedisWorkers.holds_empty (w : RedisWorkers) {now : Clock} {server : Server}
    (hclock : server.clock = now.uptime) (h : server.IsVacant w.connection) :
    w.Holds .empty now server := by
  have hentry : ∀ suffix, server.entry? (w.connection.key suffix) = none := by
    intro suffix
    rw [Server.entry?, h suffix]
    rfl
  have hnone : ∀ id, Registry.empty.live? w.lease now id = none := fun _ => rfl
  refine ⟨hclock, ⟨[], List.nodup_nil, ?_, fun id hid => ?_⟩, fun id => ?_, fun id l hl => ?_⟩
  · exact hentry "worker:set"
  · rw [hnone id] at hid
    exact absurd hid (by simp)
  · have hkey : w.infoKey id = w.connection.key ("worker:info:" ++ id) := String.append_assoc
    rw [hkey, hentry]
    rfl
  · rw [hnone id] at hl
    exact absurd hl (by simp)

/-- A store that answers as the registry does, and is empty at first, answers any calls in the order
of time as the empty registry explains. -/
lemma WorkerStore.Refines.replay_explained_of_empty {store : WorkerStore Site} {ttl : Duration}
    {holds : Registry → Site → Prop} (h : store.Refines ttl holds) {s : Site}
    (hs : ∀ c, holds .empty (s.at c)) {calls : List (Clock × WorkerCall)}
    (hordered : calls.Pairwise fun a b => a.1.uptime.nanos ≤ b.1.uptime.nanos)
    (hcalls : ∀ c ∈ calls, (c.1.deadline? ttl).isSome = true ∧ c.2.isSized = true) :
    Registry.Explains ttl .empty calls (store.replay calls s) := by
  cases calls with
  | nil => rfl
  | cons step rest =>
    have hstart : ∀ c ∈ step :: rest, (s.at step.1).clock.uptime.nanos ≤ c.1.uptime.nanos := by
      intro c hc
      rcases List.mem_cons.mp hc with rfl | hc
      · exact Nat.le_refl _
      · exact (List.pairwise_cons.mp hordered).1 c hc
    have hreplay : store.replay (step :: rest) s = store.replay (step :: rest) (s.at step.1) := rfl
    rw [hreplay]
    exact h.replay_explained (hs step.1) hstart hordered hcalls

/-! ## A store of either kind -/

/-- Where the workers are kept. -/
inductive WorkerBackend
  | memory (ttl : Duration)
  | redis (w : RedisWorkers)

namespace WorkerBackend

/-- The store. -/
def store : WorkerBackend → WorkerStore Site
  | memory ttl => Site.memoryWorkers ttl
  | redis w => Site.redisWorkers w

/-- How long a record lasts. -/
def lease : WorkerBackend → Duration
  | memory ttl => ttl
  | redis w => w.lease

/-- Whether a site holds the workers of a registry. -/
def Holds : WorkerBackend → Registry → Site → Prop
  | memory ttl => MemoryWorkers.Holds ttl
  | redis w => w.HoldsAt

/-- Whether Redis accepts the time to live. -/
def IsValid : WorkerBackend → Prop
  | memory _ => True
  | redis w => w.expiry < Server.maxExpiry

/-- Whether a lease can begin at a time. -/
def CanLease : WorkerBackend → Clock → Prop
  | memory ttl, now => (now.deadline? ttl).isSome = true
  | redis w, _ => w.expiry < Server.maxExpiry

/-- Whether nothing is kept yet. -/
def IsVacant : WorkerBackend → Site → Prop
  | memory _, s => s.workers = .empty
  | redis w, s => s.line.IsPlain ∧ s.line.server.clock = s.clock.uptime ∧
      s.line.server.IsVacant w.connection

variable {b : WorkerBackend}

/-- **A store of either kind answers as the registry does.** -/
theorem refines (h : b.IsValid) : b.store.Refines b.lease b.Holds :=
  match b with
  | memory ttl => MemoryWorkers.refines ttl
  | redis _ => RedisWorkers.refines h

/-- Of either kind, a store without workers holds the empty registry. -/
lemma holds_empty {s : Site} (h : b.IsVacant s) : b.Holds .empty s :=
  match b with
  | memory ttl => MemoryWorkers.holds_empty ttl h
  | redis w => ⟨h.1, w.holds_empty h.2.1 h.2.2⟩

/-- A valid store can register workers whenever the deadline is one that the clock can represent. -/
lemma canLease_of_isValid (hb : b.IsValid) {now : Clock}
    (hdeadline : (now.deadline? b.lease).isSome = true) : b.CanLease now :=
  match b with
  | memory _ => hdeadline
  | redis _ => hb

/-- A call of the store, which answers as the registry does. -/
lemma answers_of_canLease {m : Registry} {s s' : Site} (h : b.CanLease s.clock)
    (hholds : b.Holds m s) (call : WorkerCall) (hsized : call.isSized = true)
    {a : Except Failure WorkerAnswer} (hrun : call.perform b.store s = (a, s')) :
    m.Answers b.lease s.clock call a ∧ b.Holds (m.next b.lease s.clock call) s' ∧
      s'.clock = s.clock := by
  have hperform : m.Answers b.lease s.clock call (call.perform b.store s).1 ∧
      b.Holds (m.next b.lease s.clock call) (call.perform b.store s).2 ∧
      (call.perform b.store s).2.clock = s.clock := by
    cases b with
    | memory ttl => exact (MemoryWorkers.refines ttl).perform call hholds h hsized
    | redis w => exact RedisWorkers.answers_of_perform h hholds call hsized
  rwa [hrun] at hperform

/-- The same for a valid store, as long as a process can hold the time at which a lease ends. -/
lemma answers_of_perform (hb : b.IsValid) {m : Registry} {s s' : Site} (hholds : b.Holds m s)
    (hdeadline : (s.clock.deadline? b.lease).isSome = true) (call : WorkerCall)
    (hsized : call.isSized = true) {a : Except Failure WorkerAnswer}
    (hrun : call.perform b.store s = (a, s')) :
    m.Answers b.lease s.clock call a ∧ b.Holds (m.next b.lease s.clock call) s' ∧
      s'.clock = s.clock :=
  answers_of_canLease (canLease_of_isValid hb hdeadline) hholds call hsized hrun

end WorkerBackend

/-! ## Both kinds -/

/-- **The workers in memory and the workers in Redis give the same answers to any calls, and they
are those of the registry**, for every lease of whole seconds that Redis accepts, if the stores are
started empty and nobody else uses their keys. The clock does not go back, and a process can hold
the time at which a lease that begins now will end.

**Proof sketch.** Each store, started empty, refines the registry, so its answers are explained by
it. A registry explains one series of answers only. -/
theorem worker_stores_agree {seconds : Nat} (hpos : 1 ≤ seconds) (hmax : seconds < Server.maxExpiry)
    (connection : Redis.Connection) {s : Site} (hworkers : s.workers = .empty)
    (hline : s.line.IsPlain) (hserver : s.line.server.IsVacant connection)
    {calls : List (Clock × WorkerCall)}
    (hordered : calls.Pairwise fun a b => a.1.uptime.nanos ≤ b.1.uptime.nanos)
    (hcalls : ∀ c ∈ calls, (c.1.deadline? (.ofSeconds seconds)).isSome = true ∧
      c.2.isSized = true) :
    (Site.memoryWorkers (.ofSeconds seconds)).replay calls s =
        (Site.redisWorkers ⟨connection, .ofSeconds seconds⟩).replay calls s ∧
      Registry.Explains (.ofSeconds seconds) .empty calls
        ((Site.memoryWorkers (.ofSeconds seconds)).replay calls s) := by
  obtain ⟨w, hw⟩ : ∃ w : RedisWorkers, w = ⟨connection, .ofSeconds seconds⟩ := ⟨_, rfl⟩
  have hmemory := (MemoryWorkers.refines (.ofSeconds seconds)).replay_explained_of_empty
    (fun c => MemoryWorkers.holds_empty (.ofSeconds seconds) (s := s.at c) hworkers) hordered hcalls
  have hexpiry : w.expiry = seconds := by
    rw [hw, RedisWorkers.expiry, Duration.wholeSeconds, Duration.ofSeconds]
    simp only
    omega
  have hlease : w.lease = .ofSeconds seconds := by rw [RedisWorkers.lease, hexpiry]
  have hrefines := RedisWorkers.refines (w := w) (by rw [hexpiry]; exact hmax)
  have hredis := hrefines.replay_explained_of_empty
    (fun c => ⟨hline, w.holds_empty rfl (by rw [hw]; exact hserver)⟩) hordered
    (by rw [hlease]; exact hcalls)
  rw [hlease, hw] at hredis
  exact ⟨Registry.explains_unique hmemory hredis, hmemory⟩

/-- A worker with a lease of two seconds is there after one of them and gone after both. -/
theorem worker_stores_agree_two_seconds :
    let ttl := Duration.ofSeconds 2
    let r : WorkerRecord := ⟨"a", "host:1", .epoch, 3⟩
    let s : Site := ⟨⟨.epoch, .ofSeconds 0⟩, .empty, .empty, {}⟩
    let calls := [(⟨.epoch, .ofSeconds 0⟩, WorkerCall.add r), (⟨.epoch, .ofSeconds 1⟩, .get "a"),
      (⟨.epoch, .ofSeconds 2⟩, .ids)]
    (Site.memoryWorkers ttl).replay calls s =
        (Site.redisWorkers ⟨⟨"cs", .ofSeconds 5⟩, ttl⟩).replay calls s ∧
      (Site.memoryWorkers ttl).replay calls s = [.ok .nothing, .ok (.record r), .ok (.ids [])] :=
  ⟨(worker_stores_agree (by decide) (by decide) ⟨"cs", .ofSeconds 5⟩ rfl ⟨rfl, rfl⟩ (fun _ => rfl)
    (by decide) (by decide)).1, rfl⟩

end ConversionScheduler
