import ConversionScheduler.Proofs.Registry
import ConversionScheduler.Proofs.Tables
/-!
# The workers in memory are a registry

In memory a lease is an entry with a deadline. Entries that have run out stay until the ids are
listed; they count for nothing in the meantime, and since time does not go back they never will.

## Main definitions

* `MemoryWorkers.Holds` — the workers in memory are those of a registry.

## Main results

* `MemoryWorkers.refines` — the workers in memory answer as the registry does.
-/

namespace ConversionScheduler

namespace MemoryWorkers

/-- The entry of a lease. -/
def entryOf (ttl : Duration) (l : Lease) : WorkerEntry := ⟨l.record, ⟨l.written.nanos + ttl.nanos⟩⟩

/-- Whether the workers in memory are those of a registry, records that have run out aside. -/
structure Holds (ttl : Duration) (m : Registry) (s : Site) : Prop where
  proper : s.workers.IsProper
  live : ∀ id, (s.workers.get? id).filter (·.isLive s.clock) =
    (m.live? ttl s.clock id).map (entryOf ttl)

variable {ttl : Duration} {m : Registry} {s : Site}

/-- A deadline that the clock can represent is the sum. -/
lemma deadline?_eq {c : Clock} (h : (c.deadline? ttl).isSome = true) :
    c.deadline? ttl = some ⟨c.uptime.nanos + ttl.nanos⟩ := by
  simp only [Clock.deadline?] at h ⊢
  split at h
  · rename_i hnear
    rw [if_pos hnear]
  · exact absurd h (by simp)

/-- An entry in memory lives as long as its lease. -/
lemma isLive_entryOf (l : Lease) (c : Clock) :
    (entryOf ttl l).isLive c = decide (c.uptime.nanos < l.written.nanos + ttl.nanos) := rfl

/-- Records do not come back. -/
lemma filter_isLive_later {c c' : Clock} (h : c.uptime.nanos ≤ c'.uptime.nanos)
    (e? : Option WorkerEntry) :
    e?.filter (·.isLive c') = (e?.filter (·.isLive c)).filter (·.isLive c') := by
  cases e? with
  | none => rfl
  | some e =>
    have hmono : e.isLive c' = true → e.isLive c = true := by
      simp only [WorkerEntry.isLive, decide_eq_true_eq]
      omega
    by_cases hc' : e.isLive c' = true
    · simp [Option.filter_some, hc', hmono hc']
    · by_cases hc : e.isLive c = true <;> simp [Option.filter_some, hc, hc']

/-- Writing a record that begins a lease. -/
lemma Holds.insert (h : Holds ttl m s) (l : Lease) (id : String) :
    Holds ttl (Function.update m id (some l))
      { s with workers := s.workers.insert id (entryOf ttl l) } where
  proper := h.proper.insert _ _
  live id' := by
    rw [Registry.live?_update, Table.get?_insert]
    split
    · by_cases hl : s.clock.uptime.nanos < l.written.nanos + ttl.nanos
      · simp [Option.filter_some, isLive_entryOf, hl]
      · simp [Option.filter_some, isLive_entryOf, hl]
    · exact h.live id'

/-- Erasing the entry of a worker withdraws its lease. -/
lemma Holds.erase (h : Holds ttl m s) (id : String) :
    Holds ttl (Function.update m id none) { s with workers := s.workers.erase id } where
  proper := h.proper.erase _
  live id' := by
    rw [Registry.live?_update, Table.get?_erase]
    split
    · rfl
    · exact h.live id'

/-- Records that have run out may be dropped. -/
lemma Holds.drop (h : Holds ttl m s) :
    Holds ttl m { s with workers := s.workers.filter fun _ e => e.isLive s.clock } where
  proper := h.proper.filter _
  live id := by
    rw [Table.get?_filter h.proper, Option.filter_filter]
    simpa using h.live id

/-- Memory that holds a registry goes on holding it as time passes, as both tell a lease that has
run out by the same deadline. -/
lemma Holds.later (h : Holds ttl m s) {c : Clock} (hc : s.clock.uptime.nanos ≤ c.uptime.nanos) :
    Holds ttl m (s.at c) where
  proper := h.proper
  live id := by
    show (s.workers.get? id).filter (·.isLive c) = (m.live? ttl c id).map (entryOf ttl)
    rw [filter_isLive_later hc, h.live id, Registry.live?_later hc]
    cases m.live? ttl s.clock id with
    | none => rfl
    | some l =>
      by_cases hl : c.uptime.nanos < l.written.nanos + ttl.nanos <;>
        simp [Option.filter_some, isLive_entryOf, hl]

/-- The ids listed from memory are those with a lease. -/
lemma Holds.ids (h : Holds ttl m s) (id : String) :
    id ∈ sortIds (s.workers.filter fun _ e => e.isLive s.clock).keys ↔
      (m.live? ttl s.clock id).isSome := by
  rw [mem_sortIds, Table.mem_keys_iff, Table.get?_filter h.proper, h.live id]
  simp

/-! ## The calls -/

/-- A record is written with the end of its lease, if the clock reaches as far. -/
lemma add_of_deadline (hdeadline : (s.clock.deadline? ttl).isSome = true) (r : WorkerRecord) :
    (Site.memoryWorkers ttl).add r s =
      (.ok (), { s with workers := s.workers.insert r.id (entryOf ttl (.start s.clock r)) }) := by
  simp only [Site.memoryWorkers, Site.onWorkers, Query.onPart, add, deadline?_eq hdeadline]
  rfl

/-- A call that writes a record begins its lease. -/
lemma run_add (hdeadline : (s.clock.deadline? ttl).isSome = true) (r : WorkerRecord) :
    (WorkerCall.add r).perform (Site.memoryWorkers ttl) s =
      (.ok .nothing,
        { s with workers := s.workers.insert r.id (entryOf ttl (.start s.clock r)) }) := by
  rw [WorkerCall.perform, Query.map_apply, add_of_deadline hdeadline]
  rfl

/-- A record is read if its lease has not run out, and nothing changes. -/
lemma run_get (h : Holds ttl m s) (id : String) :
    (WorkerCall.get id).perform (Site.memoryWorkers ttl) s =
      (match m.live? ttl s.clock id with
        | some l => .ok (.record l.record)
        | none => .error (.reported (.workerNotFound id)), s) := by
  have hlive : s.workers.live? s.clock id = (m.live? ttl s.clock id).map (·.record) := by
    rw [live?, h.live id, Option.map_map]
    rfl
  rw [WorkerCall.perform, Query.map_apply]
  simp only [Site.memoryWorkers, Site.onWorkers, Query.onPart, get, hlive]
  cases m.live? ttl s.clock id <;> rfl

/-- A sign of life begins a new lease if the last one has not run out. -/
lemma run_heartbeat (h : Holds ttl m s) (hdeadline : (s.clock.deadline? ttl).isSome = true)
    (r : WorkerRecord) :
    (WorkerCall.heartbeat r).perform (Site.memoryWorkers ttl) s =
      if (m.live? ttl s.clock r.id).isSome then
        (.ok (.record (r.touch s.clock.wall)),
          { s with
            workers := s.workers.insert r.id
              (entryOf ttl (.start s.clock (r.touch s.clock.wall))) })
      else (.error (.reported (.workerNotFound r.id)), s) := by
  have hfound := h.live r.id
  rw [WorkerCall.perform, Query.map_apply]
  simp only [Site.memoryWorkers, Site.onWorkers, Query.onPart, heartbeat, hfound,
    deadline?_eq hdeadline]
  cases m.live? ttl s.clock r.id <;> rfl

/-- The listed ids are those of the leases that have not run out, in order. -/
lemma answers_ids (h : Holds ttl m s) :
    m.Answers ttl s.clock .ids ((WorkerCall.ids).perform (Site.memoryWorkers ttl) s).1 := by
  have hnodup := h.proper.filter fun _ e => e.isLive s.clock
  exact ⟨_, rfl, (sortIds_strict hnodup).imp Utf8.encode_lt_encode, h.ids⟩

/-- **The workers in memory answer as the registry does.** -/
theorem refines (ttl : Duration) : (Site.memoryWorkers ttl).Refines ttl (Holds ttl) where
  later c h hc := h.later hc
  perform {m s} call h hdeadline _ := by
    cases call with
    | add r =>
      rw [run_add hdeadline]
      exact ⟨rfl, h.insert (.start s.clock r) r.id, rfl⟩
    | remove id => exact ⟨rfl, h.erase id, rfl⟩
    | get id =>
      rw [run_get h]
      exact ⟨rfl, h, rfl⟩
    | ids => exact ⟨answers_ids h, h.drop, rfl⟩
    | heartbeat r =>
      rw [run_heartbeat h hdeadline, Registry.Answers, Registry.next]
      split
      · exact ⟨rfl, h.insert (.start s.clock (r.touch s.clock.wall)) r.id, rfl⟩
      · exact ⟨rfl, h, rfl⟩

end MemoryWorkers

end ConversionScheduler
