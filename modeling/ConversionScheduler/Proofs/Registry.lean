import ConversionScheduler.Proofs.IdOrder
import ConversionScheduler.Store.Site
/-!
# The registry of workers

What the store of the workers promises, whatever it lives in: a map from ids to records, each of
which counts for as long as a lease that begins when it is written. The map says what each call
answers and what it changes. A store *refines* it if it answers every call as the map does.

## Main definitions

* `Lease`, `Registry` — records with the time of writing, by id.
* `Registry.live?` — the lease of an id, if it has not run out.
* `WorkerCall`, `WorkerCall.perform` — the calls of a store.
* `Registry.Answers`, `Registry.next` — what a call answers and what it changes.
* `WorkerStore.Refines` — a store that answers as the registry does.
* `WorkerStore.replay` — the answers of a store to a series of calls.

## Main results

* `Registry.answers_unique` — there is only one right answer.
* `WorkerStore.Refines.replay_explained` — a store that refines the registry answers a whole series
  of calls as the registry does.
-/

namespace ConversionScheduler

/-- A record, and when it was written. -/
structure Lease where
  record : WorkerRecord
  written : Duration

/-- The lease of a record that is written now. -/
def Lease.start (now : Clock) (r : WorkerRecord) : Lease := ⟨r, now.uptime⟩

/-- The last record that was written for each id. -/
abbrev Registry := String → Option Lease

/-- A call of the store of the workers. -/
inductive WorkerCall
  | add (r : WorkerRecord)
  | remove (id : String)
  | get (id : String)
  | ids
  | heartbeat (r : WorkerRecord)
deriving DecidableEq

/-- What a call brings. -/
inductive WorkerAnswer
  | nothing
  | record (r : WorkerRecord)
  | ids (ids : List String)
deriving DecidableEq

namespace WorkerCall

/-- Performs a call. -/
def perform {ω : Type} (store : WorkerStore ω) : WorkerCall → Query ω WorkerAnswer
  | add r => (fun _ => .nothing) <$> store.add r
  | remove id => (fun _ => .nothing) <$> store.remove id
  | get id => .record <$> store.get id
  | ids => .ids <$> store.ids
  | heartbeat r => .record <$> store.heartbeat r

/-- Whether the record that a call writes has a weight of 32 bits. -/
def isSized : WorkerCall → Bool
  | add r | heartbeat r => r.weight < Dialect.bound32
  | remove _ | get _ | ids => true

/-- Whether a call writes nothing. -/
def isRead : WorkerCall → Bool
  | get _ | ids => true
  | add _ | remove _ | heartbeat _ => false

/-- A call that writes nothing writes no weight. -/
lemma isSized_of_isRead {call : WorkerCall} (h : call.isRead = true) : call.isSized = true := by
  cases call with
  | get _ | ids => rfl
  | _ => exact absurd h (by simp [isRead])

end WorkerCall

namespace Query

variable {ω α β : Type}

/-- A function of the result leaves the state alone. -/
lemma map_apply (f : α → β) (q : Query ω α) (w : ω) :
    (f <$> q) w = ((q w).1.map f, (q w).2) := by
  show q.andThen (fun a => done (f a)) w = _
  unfold andThen
  cases q w with
  | mk r w' => cases r <;> rfl

end Query

namespace Registry

variable (ttl : Duration) (now : Clock) (m : Registry)

/-- The lease of an id, if less than `ttl` has passed since its record was written. -/
def live? (id : String) : Option Lease :=
  (m id).filter fun l => now.uptime.nanos < l.written.nanos + ttl.nanos

/-- What a call changes. -/
def next : WorkerCall → Registry
  | .add r => Function.update m r.id (some (.start now r))
  | .remove id => Function.update m id none
  | .heartbeat r =>
    if (m.live? ttl now r.id).isSome then
      Function.update m r.id (some (.start now (r.touch now.wall)))
    else m
  | .get _ | .ids => m

/-- What a call answers. -/
def Answers : WorkerCall → Except Failure WorkerAnswer → Prop
  | .add _, a | .remove _, a => a = .ok .nothing
  | .get id, a =>
    a = match m.live? ttl now id with
      | some l => .ok (.record l.record)
      | none => .error (.reported (.workerNotFound id))
  | .heartbeat r, a =>
    a = if (m.live? ttl now r.id).isSome then .ok (.record (r.touch now.wall))
      else .error (.reported (.workerNotFound r.id))
  | .ids, a => ∃ ids, a = .ok (.ids ids) ∧
      ids.Pairwise (fun i j => Utf8.encode i < Utf8.encode j) ∧
      ∀ id, id ∈ ids ↔ (m.live? ttl now id).isSome

variable {ttl now m}

/-- **There is only one right answer.** -/
theorem answers_unique {call : WorkerCall} {a b : Except Failure WorkerAnswer}
    (ha : m.Answers ttl now call a) (hb : m.Answers ttl now call b) : a = b := by
  cases call with
  | ids =>
    obtain ⟨is, rfl, his, hmem⟩ := ha
    obtain ⟨js, rfl, hjs, hmem'⟩ := hb
    have heq : is = js := eq_of_ascending his hjs fun id => (hmem id).trans (hmem' id).symm
    rw [heq]
  | _ => exact ha.trans hb.symm

/-- A lease that is put into a registry counts as long as it has not run out, and the others count
as before. -/
lemma live?_update (id id' : String) (l : Option Lease) :
    Registry.live? ttl now (Function.update m id l) id' =
      if id' = id then l.filter fun l => now.uptime.nanos < l.written.nanos + ttl.nanos
      else m.live? ttl now id' := by
  unfold live?
  rw [Function.update_apply]
  split <;> rfl

/-- A lease does not come back. -/
lemma live?_later {c : Clock} (h : now.uptime.nanos ≤ c.uptime.nanos) (id : String) :
    m.live? ttl c id =
      (m.live? ttl now id).filter fun l => c.uptime.nanos < l.written.nanos + ttl.nanos := by
  unfold live?
  cases m id with
  | none => rfl
  | some l =>
    by_cases hc : c.uptime.nanos < l.written.nanos + ttl.nanos
    · have hn : now.uptime.nanos < l.written.nanos + ttl.nanos := Nat.lt_of_le_of_lt h hc
      simp [Option.filter_some, hc, hn]
    · by_cases hn : now.uptime.nanos < l.written.nanos + ttl.nanos <;>
        simp [Option.filter_some, hc, hn]

/-- Reading calls leave the registry. -/
lemma next_of_isRead {call : WorkerCall} (h : call.isRead = true) : m.next ttl now call = m := by
  cases call with
  | get _ | ids => rfl
  | _ => exact absurd h (by simp [WorkerCall.isRead])

/-- A call that fails changes nothing. -/
lemma next_of_error {call : WorkerCall} {e : Failure} (h : m.Answers ttl now call (.error e)) :
    m.next ttl now call = m := by
  cases call with
  | heartbeat r =>
    rw [Answers] at h
    rw [next]
    split at h
    · exact absurd h (by simp)
    · rename_i hgone
      rw [if_neg hgone]
  | add r | remove id => exact absurd h (by simp [Answers])
  | get _ | ids => rfl

/-- A worker that a call was given has a lease. -/
lemma live?_of_get {id : String} {r : WorkerRecord}
    (h : m.Answers ttl now (.get id) (.ok (.record r))) :
    ∃ l, m.live? ttl now id = some l ∧ l.record = r := by
  rw [Answers] at h
  cases hl : m.live? ttl now id with
  | none =>
    rw [hl] at h
    exact absurd h (by simp)
  | some l =>
    rw [hl] at h
    have heq : r = l.record := by simpa using h
    exact ⟨l, rfl, heq.symm⟩

/-- A sign of life that is written renews the record. -/
lemma next_of_heartbeat {r r' : WorkerRecord}
    (h : m.Answers ttl now (.heartbeat r) (.ok (.record r'))) :
    r' = r.touch now.wall ∧
      m.next ttl now (.heartbeat r) =
        Function.update m r.id (some (.start now (r.touch now.wall))) := by
  rw [Answers] at h
  rw [next]
  split at h
  · rename_i hlive
    exact ⟨by simpa using h, if_pos hlive⟩
  · exact absurd h (by simp)

/-! ### What the answers say about the calls of a store -/

section Calls

variable {id : String} {r : WorkerRecord}

/-- An answer to a registration is success. -/
lemma eq_of_answers_add {a : Except Failure Unit}
    (h : m.Answers ttl now (.add r) (a.map fun _ => .nothing)) : a = .ok () := by
  cases a with
  | error e => exact absurd h (by simp [Answers, Except.map])
  | ok u => rfl

/-- An answer to a removal is success, whether or not the worker was there. -/
lemma eq_of_answers_remove {a : Except Failure Unit}
    (h : m.Answers ttl now (.remove id) (a.map fun _ => .nothing)) : a = .ok () := by
  cases a with
  | error e => exact absurd h (by simp [Answers, Except.map])
  | ok u => rfl

/-- Answers with the same record come from the same result. -/
lemma eq_of_map_record {a b : Except Failure WorkerRecord}
    (h : a.map WorkerAnswer.record = b.map .record) : a = b := by
  cases a <;> cases b <;> simp_all [Except.map]

/-- An answer to a look for a worker tells the record of its lease, or that there is none. -/
lemma eq_of_answers_get {a : Except Failure WorkerRecord}
    (h : m.Answers ttl now (.get id) (a.map .record)) :
    a = match m.live? ttl now id with
      | some l => .ok l.record
      | none => .error (.reported (.workerNotFound id)) := by
  refine eq_of_map_record (Eq.trans h ?_)
  cases m.live? ttl now id <;> rfl

/-- An answer to a sign of life gives the record with the new time, if the worker has a lease. -/
lemma eq_of_answers_heartbeat {a : Except Failure WorkerRecord}
    (h : m.Answers ttl now (.heartbeat r) (a.map .record)) :
    a = if (m.live? ttl now r.id).isSome then .ok (r.touch now.wall)
      else .error (.reported (.workerNotFound r.id)) := by
  refine eq_of_map_record (Eq.trans h ?_)
  split <;> rfl

/-- An answer with ids lists just those that have a lease. -/
lemma exists_of_answers_ids {a : Except Failure (List String)}
    (h : m.Answers ttl now .ids (a.map .ids)) :
    ∃ ids, a = .ok ids ∧ ∀ id, id ∈ ids ↔ (m.live? ttl now id).isSome := by
  obtain ⟨ids, hids, -, hmem⟩ := h
  cases a with
  | error e => exact absurd hids (by simp [Except.map])
  | ok ids' =>
    obtain rfl : ids' = ids := WorkerAnswer.ids.inj (Except.ok.inj hids)
    exact ⟨ids', rfl, hmem⟩

end Calls

end Registry

/-- The world at another time. -/
def Site.at (s : Site) (c : Clock) : Site :=
  { s with
    clock := c
    line := { s.line with server := { s.line.server with clock := c.uptime } } }

/-- The time goes on, and the process can still hold the time at which a lease that begins now will
end. -/
def Site.Later (ttl : Duration) (s t : Site) : Prop :=
  ∃ c : Clock, t = s.at c ∧ s.clock.uptime.nanos ≤ c.uptime.nanos ∧ (c.deadline? ttl).isSome = true

/-- A store that answers as the registry does. `holds` says which registry a world holds. -/
structure WorkerStore.Refines (store : WorkerStore Site) (ttl : Duration)
    (holds : Registry → Site → Prop) : Prop where
  perform : ∀ {m : Registry} {s : Site} (call : WorkerCall), holds m s →
    (s.clock.deadline? ttl).isSome = true → call.isSized = true →
    m.Answers ttl s.clock call (call.perform store s).1 ∧
      holds (m.next ttl s.clock call) (call.perform store s).2 ∧
      (call.perform store s).2.clock = s.clock
  later : ∀ {m : Registry} {s : Site} (c : Clock), holds m s →
    s.clock.uptime.nanos ≤ c.uptime.nanos → holds m (s.at c)

namespace WorkerStore

/-- The answers to a series of calls, each at its time. -/
def replay (store : WorkerStore Site) : List (Clock × WorkerCall) → Site →
    List (Except Failure WorkerAnswer)
  | [], _ => []
  | (c, call) :: rest, s =>
    let (a, s') := call.perform store (s.at c)
    a :: store.replay rest s'

end WorkerStore

namespace Registry

/-- Whether the registry answers a series of calls, each at its time, in the given way. -/
def Explains (ttl : Duration) (m : Registry) :
    List (Clock × WorkerCall) → List (Except Failure WorkerAnswer) → Prop
  | [], as => as = []
  | (c, call) :: rest, a :: as => m.Answers ttl c call a ∧ (m.next ttl c call).Explains ttl rest as
  | _ :: _, [] => False

/-- A registry explains one list of answers only. Two stores that the same registry explains
therefore answer alike. -/
theorem explains_unique {ttl : Duration} {m : Registry} {calls : List (Clock × WorkerCall)}
    {as bs : List (Except Failure WorkerAnswer)} (ha : m.Explains ttl calls as)
    (hb : m.Explains ttl calls bs) : as = bs := by
  induction calls generalizing m as bs with
  | nil => exact Eq.trans ha hb.symm
  | cons step rest ih =>
    cases as with
    | nil => exact ha.elim
    | cons a as =>
      cases bs with
      | nil => exact hb.elim
      | cons b bs => rw [answers_unique ha.1 hb.1, ih ha.2 hb.2]

end Registry

/-- **A store that refines the registry answers a whole series of calls as the registry does.**

**Proof sketch.** Induction on the calls. A store that holds a registry still does when time has
passed, and answers the call as it says; what it holds then is the next registry, for the rest of
the calls. -/
theorem WorkerStore.Refines.replay_explained {store : WorkerStore Site} {ttl : Duration}
    {holds : Registry → Site → Prop} (h : store.Refines ttl holds) {m : Registry} {s : Site}
    {calls : List (Clock × WorkerCall)} (hs : holds m s)
    (hstart : ∀ c ∈ calls, s.clock.uptime.nanos ≤ c.1.uptime.nanos)
    (hordered : calls.Pairwise fun a b => a.1.uptime.nanos ≤ b.1.uptime.nanos)
    (hcalls : ∀ c ∈ calls, (c.1.deadline? ttl).isSome = true ∧ c.2.isSized = true) :
    m.Explains ttl calls (store.replay calls s) := by
  induction calls generalizing m s with
  | nil => rfl
  | cons step rest ih =>
    obtain ⟨c, call⟩ := step
    obtain ⟨hfirst, hrest⟩ := List.pairwise_cons.mp hordered
    obtain ⟨hdeadline, hsized⟩ := hcalls _ (List.mem_cons_self ..)
    have hlater := h.later c hs (hstart _ (List.mem_cons_self ..))
    obtain ⟨hanswer, hnext, hclock⟩ := h.perform call hlater hdeadline hsized
    have hrestart : ∀ x ∈ rest,
        (call.perform store (s.at c)).2.clock.uptime.nanos ≤ x.1.uptime.nanos := by
      intro x hx
      rw [hclock]
      exact hfirst x hx
    exact ⟨hanswer, ih hnext hrestart hrest fun x hx => hcalls x (List.mem_cons_of_mem _ hx)⟩

end ConversionScheduler
