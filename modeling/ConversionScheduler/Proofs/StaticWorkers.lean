import ConversionScheduler.Application
import ConversionScheduler.Proofs.LeaseLimits
import Mathlib.Data.List.Induction
/-!
# The workers of a configuration

At the start the configured workers are registered one after the other. Each registration is an
attempt: one that the store refuses is left out of the count, and the next one is made all the same.
An id may be configured more than once; then each entry counts, and what is kept is the last entry
that was not refused.

None of this is so when the configured lease ends after the last reading of the clock. The first
registration that reaches the store then ends the process.

## Main definitions

* `FaultRule.failures` — which of several calls are made to fail.
* `FaultRule.pattern` — rules that let any calls fail.
* `Application.accepted` — the workers whose registration does not fail.

## Main results

* `FaultRule.failures_pattern` — any calls can be made to fail.
* `Application.register_of_refused`, `Application.register_of_spared` — one registration.
* `Application.registerAll_of_canLease` — all of them.
* `start_registers_iff` — what comes of a start.
-/

namespace ConversionScheduler

open Manager (State)

/-! ## Calls that are made to fail -/

namespace FaultRule

/-- The errors with which calls about some ids, one after the other, are made to fail. -/
def failures (m : StoreMethod) : List String → List FaultRule → List (Option Error)
  | [], _ => []
  | id :: ids, rules => (apply m id rules).1 :: failures m ids (apply m id rules).2

/-- Lets one more call pass before everything else. -/
def later (r : FaultRule) : FaultRule := { r with skip := r.skip + 1 }

/-- Rules that let calls fail as they are told to. -/
def pattern (m : StoreMethod) : List (Option FaultKind) → List FaultRule
  | [] => []
  | none :: rest => (pattern m rest).map later
  | some k :: rest => ⟨m, none, k, 0, some 1⟩ :: pattern m rest

variable {m m' : StoreMethod} {id : String} {rules : List FaultRule}

/-- The first rule decides if it is about the call, lets no more calls pass first and has not done
all it may. Otherwise the others decide, and if it is about the call, one call less has to pass. -/
lemma apply_cons (r : FaultRule) (rules : List FaultRule) :
    apply m id (r :: rules) =
      if r.concerns m id = true ∧ r.skip = 0 ∧ r.times ≠ some 0 then
        (some (r.kind.error m id), { r with times := r.times.map (· - 1) } :: rules)
      else
        ((apply m id rules).1, (if r.concerns m id then { r with skip := r.skip - 1 } else r) ::
          (apply m id rules).2) := by
  obtain ⟨method, about, kind, skip, times⟩ := r
  rw [apply]
  by_cases hconcerns : FaultRule.concerns ⟨method, about, kind, skip, times⟩ m id = true
  · cases skip with
    | zero => by_cases htimes : times = some 0 <;> simp [hconcerns, htimes]
    | succ skip => simp [hconcerns]
  · simp [hconcerns]

/-- Each call fails or does not. -/
lemma length_failures (m : StoreMethod) (ids : List String) (rules : List FaultRule) :
    (failures m ids rules).length = ids.length := by
  induction ids generalizing rules with
  | nil => rfl
  | cons id ids ih => exact congrArg Nat.succ (ih _)

/-- Rules about other methods do nothing. -/
lemma apply_of_unconcerned (h : ∀ r ∈ rules, r.method ≠ m) : apply m id rules = (none, rules) := by
  induction rules with
  | nil => rfl
  | cons r rules ih =>
    obtain ⟨hr, hrules⟩ := List.forall_mem_cons.mp h
    have hconcerns : r.concerns m id = false := by simp [concerns, hr]
    rw [apply_cons, if_neg (by simp [hconcerns]), ih hrules, hconcerns]
    rfl

/-- A rule stays one about its method. -/
lemma methods_apply (m : StoreMethod) (id : String) (rules : List FaultRule) :
    (apply m id rules).2.map (·.method) = rules.map (·.method) := by
  induction rules with
  | nil => rfl
  | cons r rules ih =>
    rw [apply_cons]
    split
    · rfl
    · rw [List.map_cons, ih]
      split <;> rfl

/-- Where no rule is about a method, none is after a call either. -/
lemma forall_apply (h : ∀ r ∈ rules, r.method ≠ m') :
    ∀ r ∈ (apply m id rules).2, r.method ≠ m' := by
  intro r hr
  have hmethod := List.mem_map_of_mem (f := FaultRule.method) hr
  rw [methods_apply] at hmethod
  obtain ⟨r', hr', hsame⟩ := List.mem_map.mp hmethod
  exact hsame ▸ h r' hr'

/-- A call passes rules that still let one pass. -/
lemma apply_map_later (h : ∀ r ∈ rules, r.concerns m id = true) :
    apply m id (rules.map later) = (none, rules) := by
  induction rules with
  | nil => rfl
  | cons r rules ih =>
    obtain ⟨hr, hrules⟩ := List.forall_mem_cons.mp h
    have hlater : r.later.concerns m id = true := hr
    rw [List.map_cons, apply_cons, if_neg (by simp [later]), ih hrules, hlater]
    rfl

/-- A rule that may let no more calls fail does nothing. -/
lemma failures_cons_of_spent {r : FaultRule} (hskip : r.skip = 0) (htimes : r.times = some 0)
    (ids : List String) (rules : List FaultRule) :
    failures m ids (r :: rules) = failures m ids rules := by
  have hsame : { r with skip := r.skip - 1 } = r := by
    cases r
    simp_all
  induction ids generalizing rules with
  | nil => rfl
  | cons id ids ih =>
    rw [failures, failures, apply_cons, if_neg (by simp [htimes]), hsame, ite_self, ih]

/-- The rules of a pattern are about all calls of the method, whatever the id. -/
lemma concerns_pattern (fs : List (Option FaultKind)) (id : String) :
    ∀ r ∈ pattern m fs, r.concerns m id = true := by
  induction fs with
  | nil => simp [pattern]
  | cons f fs ih =>
    cases f with
    | none => exact List.forall_mem_map.mpr ih
    | some k => exact List.forall_mem_cons.mpr ⟨by simp [concerns], ih⟩

/-- **Any calls can be made to fail**, each in its own way.

**Proof sketch.** By induction on the pattern. If the first call is to pass, then each of the rules
for the others lets one more pass. If it is to fail, then there is a rule for it in front, which can
do nothing more once it has done so. -/
theorem failures_pattern (m : StoreMethod) {ids : List String} {fs : List (Option FaultKind)}
    (h : ids.length = fs.length) :
    failures m ids (pattern m fs) =
      List.zipWith (fun id f => f.map (FaultKind.error · m id)) ids fs := by
  induction fs generalizing ids with
  | nil => rw [List.eq_nil_of_length_eq_zero h]; rfl
  | cons f fs ih =>
    obtain ⟨id, ids, rfl⟩ := List.exists_cons_of_length_eq_add_one h
    have hrest := ih (Nat.succ.inj h)
    cases f with
    | none =>
      rw [failures, pattern, apply_map_later (concerns_pattern fs id), hrest]
      rfl
    | some k =>
      rw [failures, pattern, apply_cons, if_pos (by simp [concerns]),
        failures_cons_of_spent rfl rfl, hrest]
      rfl

end FaultRule

/-! ## The store -/

namespace Site

open MemoryWorkers (entryOf deadline?_eq)

variable {ttl : Duration} {s : Site}

/-- Without a reading of the clock for its end a lease cannot begin, and the process is at its
end. -/
lemma add_of_no_deadline (h : ¬ (s.clock.deadline? ttl).isSome = true) (r : WorkerRecord) :
    (memoryWorkers ttl).add r s = (.error .crashed, s) := by
  simp only [memoryWorkers, onWorkers, Query.onPart, MemoryWorkers.add,
    Option.not_isSome_iff_eq_none.mp h]

/-- A record can be renewed as soon as it was written. -/
lemma heartbeat_of_added (h : (s.clock.deadline? ttl).isSome = true) (hpos : 0 < ttl.nanos)
    (r : WorkerRecord) (ws : MemoryWorkers) :
    let written := ws.insert r.id (entryOf ttl (.start s.clock r))
    (memoryWorkers ttl).heartbeat r { s with workers := written } =
      (.ok (r.touch s.clock.wall), { s with
        workers := written.insert r.id
          (entryOf ttl (.start s.clock (r.touch s.clock.wall))) }) := by
  have hlive : (entryOf ttl (.start s.clock r)).isLive s.clock = true :=
    decide_eq_true (Nat.lt_add_of_pos_right hpos)
  simp only [memoryWorkers, onWorkers, Query.onPart, MemoryWorkers.heartbeat,
    Table.get?_insert_self, Option.filter_some, hlive, if_true, deadline?_eq h]
  rfl

end Site

namespace Application

/-! ## One registration -/

/-- The workers whose registration does not fail. -/
def accepted (entries : List Registration) (failures : List (Option Error)) : List Registration :=
  (entries.zip failures).filterMap fun x => if x.2 = none then some x.1 else none

/-- What comes of a registration. -/
def outcome : Option Error → Except Error Unit
  | none => .ok ()
  | some e => .error e

/-- Whether no rule is about signs of life. -/
def HearsAll (w : Faulty Site) : Prop := ∀ r ∈ w.rules, r.method ≠ .heartbeat

/-- Whether some rule is about signs of life can be looked up. -/
instance (w : Faulty Site) : Decidable (HearsAll w) :=
  inferInstanceAs (Decidable (∀ r ∈ w.rules, r.method ≠ .heartbeat))

/-- The workers in memory once one has registered. It is written twice. -/
def enlist (ttl : Duration) (now : Clock) (ws : MemoryWorkers) (q : Registration) : MemoryWorkers :=
  let entry := MemoryWorkers.entryOf ttl (.start now (.ofRegistration q now.wall))
  (ws.insert q.id entry).insert q.id entry

variable {c : Scheduler (Faulty Site)} {stores : Stores Site} {ttl : Duration}
  {s : State (Faulty Site)} {q : Registration} {e : Error} {rules : List FaultRule}

/-- To register a worker is to add it and to forget the number of its proxy. -/
lemma register_eq (c : Scheduler (Faulty Site)) (q : Registration) (s : State (Faulty Site)) :
    c.register q s = (c.manager.addWorker q >>= fun _ => pure ()) s := rfl

/-- A registration that a rule lets fail changes nothing but the rules. -/
lemma register_of_refused (hc : c.stores = stores.withFaults)
    (h : FaultRule.apply .addWorker q.id s.world.rules = (some e, rules)) :
    c.register q s = .finished (.error (.reported e))
      { s with world := { s.world with rules := rules } } := by
  have hadd : c.manager.workers.add (.ofRegistration q (c.manager.now s.world)) s.world =
      (.error (.reported e), { s.world with rules := rules }) := by
    show c.stores.workers.add _ _ = _
    simp only [hc, Stores.withFaults, Faulty.guarded, WorkerRecord.ofRegistration, h]
  rw [register_eq, Operation.bind_apply, Manager.addWorker_of_refused hadd]
  rfl

variable (hc : c.stores = stores.withFaults) (hworkers : stores.workers = Site.memoryWorkers ttl)
include hc hworkers

/-- A registration that no rule lets fail ends the process if no lease can begin. -/
lemma register_of_no_lease (hlease : ¬ (s.world.base.clock.deadline? ttl).isSome = true)
    (h : FaultRule.apply .addWorker q.id s.world.rules = (none, rules)) :
    ∃ u, c.register q s = .finished (.error .crashed) u := by
  have hadd : c.manager.workers.add (.ofRegistration q (c.manager.now s.world)) s.world =
      (.error .crashed, { s.world with rules := rules }) := by
    show c.stores.workers.add _ _ = _
    simp only [hc, Stores.withFaults, Faulty.guarded, hworkers, Site.add_of_no_deadline hlease,
      WorkerRecord.ofRegistration, h]
  exact ⟨_, by rw [register_eq, Operation.bind_apply, Manager.addWorker_of_refused hadd]; rfl⟩

variable (hnow : stores.now = Site.now) (hpos : 0 < ttl.nanos)
include hnow hpos

/-- A registration that no rule lets fail is written, if a lease can begin.

**Proof sketch.** The rule for additions lets the call through, and those for heartbeats are none,
so both calls reach the memory. The first begins a lease, and the second finds the record that it
has just written. -/
lemma register_of_spared (hlease : (s.world.base.clock.deadline? ttl).isSome = true)
    (hs : HearsAll s.world)
    (h : FaultRule.apply .addWorker q.id s.world.rules = (none, rules)) :
    ∃ u, c.register q s = .finished (.ok ()) u ∧ u.world = { s.world with
      base := { s.world.base with
        workers := enlist ttl s.world.base.clock s.world.base.workers q },
      rules := rules } := by
  have htime : c.manager.now s.world = s.world.base.clock.wall := by
    show c.stores.now s.world = _
    rw [hc]
    exact congrFun hnow _
  have hrules : ∀ r ∈ rules, r.method ≠ .heartbeat := by
    have hafter : ∀ r ∈ (FaultRule.apply .addWorker q.id s.world.rules).2, r.method ≠ .heartbeat :=
      FaultRule.forall_apply hs
    rwa [h] at hafter
  let record := WorkerRecord.ofRegistration q s.world.base.clock.wall
  let entry := MemoryWorkers.entryOf ttl (.start s.world.base.clock record)
  let written := { s.world.base with workers := s.world.base.workers.insert q.id entry }
  have hadd : c.manager.workers.add (.ofRegistration q (c.manager.now s.world)) s.world =
      (.ok (), { s.world with base := written, rules := rules }) := by
    show c.stores.workers.add _ _ = _
    simp only [htime, hc, Stores.withFaults, Faulty.guarded, hworkers,
      MemoryWorkers.add_of_deadline hlease, WorkerRecord.ofRegistration, h]
    rfl
  have hheard : c.manager.workers.heartbeat (.ofRegistration q (c.manager.now s.world))
      { s.world with base := written, rules := rules } = (.ok record, { s.world with
        base := { s.world.base with
          workers := enlist ttl s.world.base.clock s.world.base.workers q },
        rules := rules }) := by
    show c.stores.workers.heartbeat _ _ = _
    simp only [htime, hc, Stores.withFaults, Faulty.guarded, hworkers,
      FaultRule.apply_of_unconcerned hrules]
    exact congrArg (fun x : _ × Site => (x.1, { s.world with base := x.2, rules := rules }))
      (Site.heartbeat_of_added hlease hpos record _)
  obtain ⟨n, u, hrun, hu⟩ := Manager.addWorker_ok_iff.mpr ⟨_, _, hadd, hheard⟩
  exact ⟨u, by rw [register_eq, Operation.bind_apply, hrun]; rfl, hu⟩

end Application

/-! ## All of them -/

namespace Application

section Lists

variable {entries : List Registration} {q : Registration} {f : Option Error}
  {fs : List (Option Error)}

/-- An entry counts if its own registration does not fail. -/
lemma accepted_cons (q : Registration) (entries : List Registration) (f : Option Error)
    (fs : List (Option Error)) :
    accepted (q :: entries) (f :: fs) =
      if f = none then q :: accepted entries fs else accepted entries fs := by
  unfold accepted
  rw [List.zip_cons_cons, List.filterMap_cons]
  split <;> simp_all

/-- Every registration that does not fail counts. -/
lemma length_accepted (h : entries.length = fs.length) :
    ((fs.map outcome).filter succeeded).length = (accepted entries fs).length := by
  induction fs generalizing entries with
  | nil => rw [List.eq_nil_of_length_eq_zero h]; rfl
  | cons f fs ih =>
    obtain ⟨q, entries, rfl⟩ := List.exists_cons_of_length_eq_add_one h
    have hrest := ih (Nat.succ.inj h)
    rw [accepted_cons]
    cases f with
    | none => exact congrArg Nat.succ hrest
    | some e => exact hrest

/-- The workers that are there are the last of each id that were written.

**Proof sketch.** Induction from the last registration back. It is the one that is live if it has
the id, since its lease has only begun; if not, it leaves the entry of the others. -/
lemma live?_enlisted {ttl : Duration} (hpos : 0 < ttl.nanos) (now : Clock)
    (qs : List Registration) (id : String) :
    MemoryWorkers.live? now (qs.foldl (enlist ttl now) .empty) id =
      (qs.reverse.find? (·.id = id)).map (.ofRegistration · now.wall) := by
  induction qs using List.reverseRecOn with
  | nil => rfl
  | append_singleton qs q ih =>
    have hlive : (MemoryWorkers.entryOf ttl (.start now (.ofRegistration q now.wall))).isLive now =
        true := decide_eq_true (Nat.lt_add_of_pos_right hpos)
    rw [List.foldl_append, List.reverse_append, List.reverse_singleton, List.singleton_append,
      List.find?_cons, MemoryWorkers.live?]
    by_cases hid : q.id = id
    · subst hid
      simp only [List.foldl_cons, List.foldl_nil, enlist, Table.get?_insert_self,
        Option.filter_some, hlive, decide_true]
      rfl
    · have hother : ¬ id = q.id := fun h => hid h.symm
      simp only [List.foldl_cons, List.foldl_nil, enlist, Table.get?_insert, if_neg hother, hid,
        decide_false]
      exact ih

end Lists

variable {c : Scheduler (Faulty Site)} {stores : Stores Site} {ttl : Duration}
  {s u v : State (Faulty Site)} {q : Registration} {rest : List Registration}

/-- The first entry is registered, whether or not that works, and then the others. -/
lemma registerAll_cons {f : Option Error} {outcomes : List (Except Error Unit)}
    (h : c.register q s = .finished ((outcome f).mapError .reported) u)
    (hrest : registerAll c rest u = .finished (.ok outcomes) v) :
    registerAll c (q :: rest) s = .finished (.ok (outcome f :: outcomes)) v := by
  have hattempt : (c.register q).attempt s = .finished (.ok (outcome f)) u := by
    rw [Operation.attempt, h]
    cases f <;> rfl
  rw [registerAll, Operation.bind_apply, hattempt]
  show (registerAll c rest >>= fun os => pure (outcome f :: os)) u = _
  rw [Operation.bind_apply, hrest]
  rfl

/-- If the first registration ends the process, the others are not made. -/
lemma registerAll_cons_of_crashed {f : Failure}
    (h : (c.register q).attempt s = .finished (.error f) u) :
    registerAll c (q :: rest) s = .finished (.error f) u := by
  rw [registerAll, Operation.bind_apply, h]
  rfl

variable (hc : c.stores = stores.withFaults) (hworkers : stores.workers = Site.memoryWorkers ttl)
include hc hworkers

/-- **A failure prevents no other registration**, and what is written is what did not fail, as long
as leases can begin.

**Proof sketch.** By induction on the entries: each registration leaves no rule about signs of life
where there was none, and does not change the time. -/
theorem registerAll_of_lease (hnow : stores.now = Site.now) (hpos : 0 < ttl.nanos)
    (entries : List Registration) (hs : HearsAll s.world) :
    let failures := FaultRule.failures .addWorker (entries.map (·.id)) s.world.rules
    (s.world.base.clock.deadline? ttl).isSome = true ∨ accepted entries failures = [] →
    ∃ u, registerAll c entries s = .finished (.ok (failures.map outcome)) u ∧
      u.world.base = { s.world.base with
        workers := (accepted entries failures).foldl (enlist ttl s.world.base.clock)
          s.world.base.workers } := by
  induction entries generalizing s with
  | nil => exact fun _ => ⟨s, rfl, rfl⟩
  | cons q entries ih =>
    rcases hrule : FaultRule.apply .addWorker q.id s.world.rules with ⟨f, rules⟩
    have hrules : ∀ r ∈ rules, r.method ≠ .heartbeat := by
      have hafter : ∀ r ∈ (FaultRule.apply .addWorker q.id s.world.rules).2,
          r.method ≠ .heartbeat := FaultRule.forall_apply hs
      rwa [hrule] at hafter
    simp only [List.map_cons, FaultRule.failures, hrule, accepted_cons]
    cases f with
    | some e =>
      intro hlease
      obtain ⟨u, hrun, hu⟩ := ih (s := { s with world := { s.world with rules := rules } }) hrules
        (by simpa using hlease)
      exact ⟨u, registerAll_cons (register_of_refused hc hrule) hrun, hu⟩
    | none =>
      intro hlease
      have hlease : (s.world.base.clock.deadline? ttl).isSome = true := by simpa using hlease
      obtain ⟨u, hregister, hu⟩ :=
        register_of_spared hc hworkers hnow hpos (q := q) hlease hs hrule
      have hnext := ih (s := u) (by rw [hu]; exact hrules)
      rw [hu] at hnext
      obtain ⟨v, hrun, hv⟩ := hnext (.inl hlease)
      exact ⟨v, registerAll_cons (f := none) hregister hrun, hv⟩

/-- If no lease can begin, then the first registration that no rule lets fail ends the process.

**Proof sketch.** Induction on the entries. A registration that a rule makes fail changes nothing
but the rules; the first that reaches the store asks for a deadline that there is not, and nothing
comes after it. -/
theorem registerAll_of_no_lease (entries : List Registration)
    (hlease : ¬ (s.world.base.clock.deadline? ttl).isSome = true)
    (h : accepted entries
      (FaultRule.failures .addWorker (entries.map (·.id)) s.world.rules) ≠ []) :
    ∃ u, registerAll c entries s = .finished (.error .crashed) u := by
  induction entries generalizing s with
  | nil => exact absurd rfl h
  | cons q entries ih =>
    rcases hrule : FaultRule.apply .addWorker q.id s.world.rules with ⟨f, rules⟩
    cases f with
    | some e =>
      simp only [List.map_cons, FaultRule.failures, hrule, accepted_cons] at h
      obtain ⟨u, hrun⟩ :=
        ih (s := { s with world := { s.world with rules := rules } }) hlease (by simpa using h)
      refine ⟨u, ?_⟩
      -- a failure is noted, and the next entry is tried
      have hattempt : (c.register q).attempt s = .finished (.ok (.error e))
          { s with world := { s.world with rules := rules } } := by
        rw [Operation.attempt, register_of_refused hc hrule]
        rfl
      rw [registerAll, Operation.bind_apply, hattempt]
      show (registerAll c entries >>= fun os => pure (.error e :: os)) _ = _
      rw [Operation.bind_apply, hrun]
      rfl
    | none =>
      obtain ⟨u, hregister⟩ := register_of_no_lease hc hworkers hlease hrule
      refine ⟨u, registerAll_cons_of_crashed ?_⟩
      rw [Operation.attempt, hregister]
      rfl

end Application

/-! ## A start -/

/-- The start of the eviction loop leaves the stores alone. -/
lemma Manager.world_start {ω : Type} (m : Manager ω) (s : State ω) :
    (m.start s).2.world = s.world := by
  unfold Manager.start
  split <;> rfl

section Start

open Application (HearsAll accepted outcome registerAll)

variable {config : Config} {s : State (Faulty Site)}

/-- The process crashes if a call reaches the store and no lease can begin. -/
lemma start_of_no_lease (hmemory : config.workerStore.backend = .memory)
    (hlasts : 0 < config.redis.workerTtlSeconds) (hlease : ¬ config.AdmitsLease s.world.base.clock)
    (h : accepted config.workers
      (FaultRule.failures .addWorker (config.workers.map (·.id)) s.world.rules) ≠ []) :
    ∃ u, (Application.ofConfig config (Site.stores config).withFaults).start s =
      .finished (.error .crashed) u := by
  set a := Application.ofConfig config (Site.stores config).withFaults
  have hworld := Manager.world_start a.scheduler.manager s
  obtain ⟨u, hrun⟩ := Application.registerAll_of_no_lease (c := a.scheduler)
    (s := (a.scheduler.manager.start s).2) rfl (Config.memoryWorkers_stores hmemory) config.workers
    (by rwa [hworld, Config.deadline?_isSome_iff hmemory hlasts]) (by rwa [hworld])
  refine ⟨u, ?_⟩
  show (registerAll a.scheduler config.workers >>= _) (a.scheduler.manager.start s).2 = _
  rw [Operation.bind_apply, hrun]
  rfl

/-- **What comes of a start** with the workers in memory, of which there are none yet, whatever
calls that add a worker are made to fail. The configured workers are registered each in its own way:
an entry succeeds unless its own call fails. The start counts those that succeed, and an id is there
afterwards with what the last of its entries that succeed says, and not there if none does.

All this is so exactly if a lease can begin, or no call reaches the store. Otherwise the process
crashes.

**Proof sketch.** The registrations are made one after the other, and none of them changes the time
or adds a rule. What is written for an id takes the place of what was written for it before. -/
theorem start_registers_iff (hmemory : config.workerStore.backend = .memory)
    (hlasts : 0 < config.redis.workerTtlSeconds) (hfresh : s.world.base.workers = .empty)
    (hs : HearsAll s.world) :
    let a := Application.ofConfig config (Site.stores config).withFaults
    let now := s.world.base.clock
    let failures := FaultRule.failures .addWorker (config.workers.map (·.id)) s.world.rules
    let registered := accepted config.workers failures
    ((∃ u, registerAll a.scheduler config.workers (a.scheduler.manager.start s).2 =
          .finished (.ok (failures.map outcome)) u ∧
        a.start s = .finished (.ok registered.length) u ∧
        ∀ id, u.world.base.workers.live? now id =
          (registered.reverse.find? (·.id = id)).map (.ofRegistration · now.wall)) ↔
      config.AdmitsLease now ∨ registered = []) ∧
    (¬ (config.AdmitsLease now ∨ registered = []) →
      ∃ u, a.start s = .finished (.error .crashed) u) := by
  intro a now failures registered
  have hcrash : ¬ (config.AdmitsLease now ∨ registered = []) →
      ∃ u, a.start s = .finished (.error .crashed) u := by
    intro hnone
    obtain ⟨hlease, haccepted⟩ := not_or.mp hnone
    exact start_of_no_lease hmemory hlasts hlease haccepted
  refine ⟨⟨fun ⟨u, _, hrun, _⟩ => ?_, fun h => ?_⟩, hcrash⟩
  · by_contra hnone
    obtain ⟨u', hcrashed⟩ := hcrash hnone
    exact absurd (Act.finished.inj (hrun.symm.trans hcrashed)).1 (by simp)
  have hworld := Manager.world_start a.scheduler.manager s
  have hpos : 0 < config.redis.workerTtl.nanos := Nat.mul_pos hlasts (by decide)
  obtain ⟨u, hrun, hu⟩ := Application.registerAll_of_lease (c := a.scheduler)
    (s := (a.scheduler.manager.start s).2) rfl (Config.memoryWorkers_stores hmemory) rfl hpos
    config.workers (by rwa [hworld])
    (by rwa [hworld, Config.deadline?_isSome_iff hmemory hlasts])
  rw [hworld] at hrun hu
  have hlength : config.workers.length = failures.length := by
    rw [FaultRule.length_failures, List.length_map]
  refine ⟨u, hrun, ?_, fun id => ?_⟩
  · show (registerAll a.scheduler config.workers >>= _) (a.scheduler.manager.start s).2 = _
    rw [Operation.bind_apply, hrun]
    exact congrArg (fun n => Act.finished (Except.ok n) u) (Application.length_accepted hlength)
  · rw [hu, hfresh]
    exact Application.live?_enlisted hpos now _ id

end Start

/-! ### Starts with a few workers -/

namespace Scheduler

/-- A configuration with some workers, and leases of some length. -/
def withWorkers (seconds : Nat) (workers : List Registration) : Config where
  redis := { workerTtlSeconds := seconds }
  workers := workers

/-- A second after the clock was started, with rules. -/
def ruled (rules : List FaultRule) : State (Faulty Site) :=
  { initialFaulty with world := ⟨afterOneSecond.world, rules, []⟩ }

end Scheduler

/-- Of four entries the third is refused by the store, and the other three are counted. The id that
these share is there with what the last of them says, and the id of the third is not there. -/
theorem start_registers_others :
    let config := Scheduler.withWorkers 300 [⟨"w", "a:1", 2⟩, ⟨"w", "b:1", 0⟩, ⟨"v", "c:1", 1⟩,
      ⟨"w", "d:1", 0⟩]
    let s := Scheduler.ruled (FaultRule.pattern .addWorker
      [none, none, some .unavailable, none])
    ∃ u, (Application.ofConfig config (Site.stores config).withFaults).start s =
        .finished (.ok 3) u ∧
      u.world.base.workers.live? s.world.base.clock "w" = some ⟨"w", "d:1", .epoch, 1⟩ ∧
      u.world.base.workers.live? s.world.base.clock "v" = none := by
  intro config s
  have hmemory : config.workerStore.backend = .memory := rfl
  have hfresh : s.world.base.workers = .empty := rfl
  obtain ⟨u, -, hrun, hlive⟩ := (start_registers_iff hmemory (by decide) hfresh
    (by decide)).1.mpr (.inl (show (_ : Nat) < _ by decide))
  refine ⟨u, hrun.trans ?_, (hlive "w").trans ?_, (hlive "v").trans ?_⟩
  · rfl
  · decide +kernel
  · decide +kernel

/-- The process crashes at the start, although the configuration passes the check and no call is
made to fail, if the lease ends after the last reading of the clock. -/
theorem start_of_overlong_lease :
    let config := Scheduler.withWorkers 9223372036854775807 [⟨"w", "a:1", 1⟩]
    config.validate = .ok () ∧ (Scheduler.ruled []).world.base.workers = .empty ∧
      ∃ u, (Application.ofConfig config (Site.stores config).withFaults).start
        (Scheduler.ruled []) = .finished (.error .crashed) u :=
  ⟨by decide +kernel, rfl, start_of_no_lease rfl (by decide) (show ¬ (_ : Nat) < _ by decide)
    (by decide)⟩

end ConversionScheduler
