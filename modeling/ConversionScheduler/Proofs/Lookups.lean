import ConversionScheduler.Proofs.Conduct
import ConversionScheduler.Proofs.Turns
import ConversionScheduler.Store.Faults
import Mathlib.Data.List.Dedup
/-!
# Whom a selection looks up

A selection looks up the workers that the balancer chooses, and strikes each one that is gone off
the list. To see which ids are looked up, and how often, the store is *watched*: it notes every
lookup in its world and otherwise does what it does. The lookups of a selection are a search
through the list, in which no id comes twice, and which ends without a result only when every id
has been found missing. So the bound on the rounds of the loop is never what ends it.

## Main definitions

* `Lookup`, `Lookup.IsMiss` — an id that was looked up, and what came of it.
* `WorkerStore.watched`, `Manager.watched` — a store that notes the lookups, and its manager.
* `Search` — the lookups in a list of ids, and what they come to.

## Main results

* `Manager.find?_eq` — one lookup.
* `Search.nodup`, `Search.none_iff`, `Search.error_iff` — what is true of every search.
* `Manager.selectFrom_of_le` — more rounds than there are ids make no difference.
* `Manager.selectFrom_watched` — a selection is a search.
* `Manager.selection_misses_nobody` — what a selection looks up, and when it comes to what.
-/

namespace ConversionScheduler

/-- An id that was looked up, and what came of it. -/
structure Lookup where
  id : String
  result : Except Failure WorkerRecord

namespace Lookup

/-- Whether there was no record. -/
def IsMiss (l : Lookup) : Prop := ∃ id, l.result = .error (.reported (.workerNotFound id))

/-- What a lookup brings, if a worker that is not there is no error. -/
def found : Except Failure WorkerRecord → Except Failure (Option WorkerRecord)
  | .ok r => .ok (some r)
  | .error (.reported (.workerNotFound _)) => .ok none
  | .error e => .error e

/-- There was no record, or there was one, or something else went wrong. -/
lemma cases (l : Lookup) :
    (l.IsMiss ∧ found l.result = .ok none) ∨
      (∃ r, l.result = .ok r ∧ found l.result = .ok (some r)) ∨
      ∃ e, l.result = .error e ∧ ¬ l.IsMiss ∧ found l.result = .error e := by
  obtain ⟨id, e | r⟩ := l
  · cases e with
    | crashed => exact .inr (.inr ⟨_, rfl, fun ⟨_, h⟩ => absurd h (by simp), rfl⟩)
    | reported e =>
      cases e with
      | workerNotFound id => exact .inl ⟨⟨id, rfl⟩, rfl⟩
      | _ => exact .inr (.inr ⟨_, rfl, fun ⟨_, h⟩ => absurd h (by simp), rfl⟩)
  · exact .inr (.inl ⟨r, rfl, rfl⟩)

end Lookup

/-! ## Searches -/

/-- The lookups in a list of ids, and what they come to: the first record that is there, the first
error other than that there is none, or nothing once the list is exhausted. An id that was missed is
struck off, however often it is listed. -/
inductive Search : List String → List Lookup → Except Failure (Option WorkerRecord) → Prop
  | exhausted : Search [] [] (.ok none)
  | found {ids : List String} {id : String} {r : WorkerRecord} (listed : id ∈ ids) :
    Search ids [⟨id, .ok r⟩] (.ok (some r))
  | failed {ids : List String} {id : String} {e : Failure} (listed : id ∈ ids)
    (other : ¬ (⟨id, .error e⟩ : Lookup).IsMiss) : Search ids [⟨id, .error e⟩] (.error e)
  | missed {ids : List String} {l : Lookup} {lookups : List Lookup}
    {outcome : Except Failure (Option WorkerRecord)} (listed : l.id ∈ ids) (miss : l.IsMiss)
    (rest : Search (ids.filter (· ≠ l.id)) lookups outcome) : Search ids (l :: lookups) outcome

namespace Search

variable {ids : List String} {lookups : List Lookup}
  {outcome : Except Failure (Option WorkerRecord)} {l : Lookup}

/-- Only ids of the list are looked up. -/
lemma listed (h : Search ids lookups outcome) (hl : l ∈ lookups) : l.id ∈ ids := by
  induction h with
  | exhausted => exact absurd hl (by simp)
  | found hid | failed hid _ =>
    obtain rfl := List.mem_singleton.mp hl
    exact hid
  | missed hid _ _ ih =>
    rcases List.mem_cons.mp hl with rfl | hl
    · exact hid
    · exact (List.mem_filter.mp (ih hl)).1

/-- **No id is looked up twice.** -/
theorem nodup (h : Search ids lookups outcome) : (lookups.map (·.id)).Nodup := by
  induction h with
  | exhausted => exact List.nodup_nil
  | found | failed => exact List.nodup_singleton _
  | missed _ _ rest ih =>
    refine List.nodup_cons.mpr ⟨fun hmem => ?_, ih⟩
    obtain ⟨l', hl', heq⟩ := List.mem_map.mp hmem
    have hne := (List.mem_filter.mp (rest.listed hl')).2
    exact absurd heq (by simpa using hne)

/-- There are at most as many lookups as different ids. -/
lemma length_le (h : Search ids lookups outcome) : lookups.length ≤ ids.dedup.length := by
  have hsub : lookups.map (·.id) ⊆ ids.dedup := fun id hid => by
    obtain ⟨l, hl, rfl⟩ := List.mem_map.mp hid
    exact List.mem_dedup.mpr (h.listed hl)
  have hle := (List.subperm_of_subset h.nodup hsub).length_le
  rwa [List.length_map] at hle

/-- All lookups but the last one are misses. -/
lemma isMiss_of_mem_dropLast (h : Search ids lookups outcome) (hl : l ∈ lookups.dropLast) :
    l.IsMiss := by
  induction h with
  | exhausted | found | failed => exact absurd hl (by simp)
  | @missed _ l₀ lookups _ _ miss _ ih =>
    cases lookups with
    | nil => exact absurd hl (by simp)
    | cons l₁ lookups =>
      rw [List.dropLast_cons_cons] at hl
      rcases List.mem_cons.mp hl with rfl | hl
      · exact miss
      · exact ih hl

/-- The record that was found is the one that was read last. -/
lemma getLast?_of_found {r : WorkerRecord} (h : Search ids lookups (.ok (some r))) :
    ∃ id ∈ ids, lookups.getLast? = some ⟨id, .ok r⟩ := by
  generalize houtcome : (Except.ok (some r) : Except Failure (Option WorkerRecord)) = outcome at h
  induction h with
  | exhausted => exact absurd houtcome (by simp)
  | failed => exact absurd houtcome (by simp)
  | found hid =>
    obtain rfl := Option.some.inj (Except.ok.inj houtcome)
    exact ⟨_, hid, rfl⟩
  | missed _ _ _ ih =>
    obtain ⟨id, hid, hlast⟩ := ih houtcome
    exact ⟨id, (List.mem_filter.mp hid).1, by rw [List.getLast?_cons, hlast]; rfl⟩

/-- **A search comes to nothing if and only if every id was missed.**

**Proof sketch.** Induction on the search. Only one that is exhausted comes to nothing, and there an
empty list makes the right side true; after a miss, the ids left are those of the list but the one
that was missed. -/
theorem none_iff (h : Search ids lookups outcome) :
    outcome = .ok none ↔ ∀ id ∈ ids, ∃ l ∈ lookups, l.id = id ∧ l.IsMiss := by
  induction h with
  | exhausted => simp
  | @found _ id r hid =>
    refine ⟨fun h => absurd h (by simp), fun h => ?_⟩
    obtain ⟨l, hl, -, _, hmiss⟩ := h id hid
    obtain rfl := List.mem_singleton.mp hl
    exact absurd hmiss (by simp)
  | @failed _ id e hid hother =>
    refine ⟨fun h => absurd h (by simp), fun h => ?_⟩
    obtain ⟨l, hl, -, hmiss⟩ := h id hid
    obtain rfl := List.mem_singleton.mp hl
    exact absurd hmiss hother
  | @missed ids l lookups outcome hid miss rest ih =>
    rw [ih]
    constructor
    · intro h id hlisted
      by_cases hsame : id = l.id
      · exact ⟨l, List.mem_cons_self .., hsame.symm, miss⟩
      · obtain ⟨l', hl', h'⟩ := h id (List.mem_filter.mpr ⟨hlisted, by simpa using hsame⟩)
        exact ⟨l', List.mem_cons_of_mem _ hl', h'⟩
    · intro h id hlisted
      obtain ⟨hlisted, hne⟩ := List.mem_filter.mp hlisted
      obtain ⟨l', hl', heq, h'⟩ := h id hlisted
      rcases List.mem_cons.mp hl' with rfl | hl'
      · exact absurd heq.symm (by simpa using hne)
      · exact ⟨l', hl', heq, h'⟩

/-- **A search fails if and only if a lookup failed in another way**, and in that way. -/
theorem error_iff (h : Search ids lookups outcome) (e : Failure) :
    outcome = .error e ↔ ∃ l ∈ lookups, l.result = .error e ∧ ¬ l.IsMiss := by
  induction h with
  | exhausted => simp
  | found => simp
  | @failed _ id e' _ hother =>
    constructor
    · intro h
      obtain rfl := Except.error.inj h
      exact ⟨_, List.mem_singleton_self _, rfl, hother⟩
    · rintro ⟨l, hl, hresult, -⟩
      obtain rfl := List.mem_singleton.mp hl
      exact congrArg Except.error (Except.error.inj hresult)
  | @missed _ l _ _ _ miss _ ih =>
    rw [ih]
    constructor
    · rintro ⟨l', hl', h'⟩
      exact ⟨l', List.mem_cons_of_mem _ hl', h'⟩
    · rintro ⟨l', hl', hresult, hother⟩
      rcases List.mem_cons.mp hl' with rfl | hl'
      · exact absurd miss hother
      · exact ⟨l', hl', hresult, hother⟩

end Search

/-! ## Watching a store -/

/-- A world, and the lookups that were made in it. -/
structure Watched (ω : Type) where
  base : ω
  lookups : List Lookup := []

namespace Watched

variable {ω α : Type}

/-- A call that is not noted. -/
def unnoted (q : Query ω α) : Query (Watched ω) α :=
  Query.onPart base (fun base w => { w with base := base }) q

/-- A call that is not noted changes the world as it would without being watched. -/
lemma unnoted_eq {q : Query ω α} {r : Except Failure α} {w : Watched ω} {base : ω}
    (h : q w.base = (r, base)) : unnoted q w = (r, { w with base := base }) := by
  simp only [unnoted, Query.onPart, h]

end Watched

/-- The store that notes every lookup behind the earlier ones. -/
def WorkerStore.watched {ω : Type} (store : WorkerStore ω) : WorkerStore (Watched ω) where
  add r := Watched.unnoted (store.add r)
  remove id := Watched.unnoted (store.remove id)
  get id w := ((store.get id w.base).1,
    ⟨(store.get id w.base).2, w.lookups ++ [⟨id, (store.get id w.base).1⟩]⟩)
  ids := Watched.unnoted store.ids
  heartbeat r := Watched.unnoted (store.heartbeat r)
  close := Watched.unnoted store.close

namespace Manager

variable {ω : Type}

/-- The manager of the workers in a store that notes the lookups. -/
def watched (m : Manager ω) : Manager (Watched ω) :=
  ⟨m.workers.watched, fun w => m.now w.base, m.settings⟩

namespace State

/-- A state in whose world no lookup has been noted. -/
def watched (s : State ω) : State (Watched ω) :=
  ⟨⟨s.world, []⟩, s.pool, s.balancer, s.metrics, s.evictionLoop, s.timer, s.journal⟩

/-- A state without what was noted about the lookups. -/
def unwatched (s : State (Watched ω)) : State ω :=
  ⟨s.world.base, s.pool, s.balancer, s.metrics, s.evictionLoop, s.timer, s.journal⟩

/-- What is left to do at the end of a search: to get the proxy of the record that was found. -/
def settle : Except Failure (Option WorkerRecord) → Operation (State ω) (Option Nat)
  | .ok (some record) => do return some (← resolve record)
  | .ok none => return none
  | .error e => Operation.stop e

end State

variable {m : Manager ω}

/-- One lookup. -/
lemma find?_eq (m : Manager ω) (id : String) (s : State ω) :
    m.find? id s = .finished (Lookup.found (m.workers.get id s.world).1)
      { s with world := (m.workers.get id s.world).2 } := by
  unfold find?
  rcases hget : m.workers.get id s.world with ⟨e | r, w⟩
  · show Act.andThen (Act.andThen (State.query _ s) _) _ = _
    rw [State.query_eq hget]
    cases e with
    | crashed => rfl
    | reported e => cases e <;> rfl
  · show Act.andThen (Act.andThen (State.query _ s) _) _ = _
    rw [State.query_eq hget]
    rfl

/-! ## A selection is a search -/

/-- One round of a selection. -/
lemma selectFrom_succ (m : Manager ω) (rounds : Nat) (ids : List String) (s : State ω) :
    m.selectFrom (rounds + 1) ids s =
      match s.balancer.select ids with
      | (none, balancer) => .finished (.ok none) { s with balancer := balancer }
      | (some id, balancer) =>
        (m.find? id >>= fun found =>
          match found with
          | some record => State.settle (.ok (some record))
          | none => m.selectFrom rounds (ids.filter (· ≠ id))) { s with balancer := balancer } := by
  rw [selectFrom, Operation.bind_apply]
  rcases hselect : s.balancer.select ids with ⟨_ | id, balancer⟩
  · simp only [Operation.step, hselect, Act.andThen]
    rfl
  · simp only [Operation.step, hselect, Act.andThen]
    rfl

/-- Nobody is selected from an empty list. -/
lemma selectFrom_nil (m : Manager ω) (rounds : Nat) (s : State ω) :
    m.selectFrom rounds [] s = .finished (.ok none) s := by
  cases rounds with
  | zero => rfl
  | succ rounds =>
    rw [selectFrom_succ]
    rfl

/-- Striking an id off a list shortens it. -/
lemma length_filter_ne_lt {ids : List String} {id : String} (h : id ∈ ids) :
    (ids.filter (· ≠ id)).length < ids.length := by
  have hstruck : ¬ decide (id ≠ id) = true := by simp
  exact List.length_filter_lt_length_iff_exists.mpr ⟨id, h, hstruck⟩

/-- **The bound on the rounds of a selection is never what ends it.**

**Proof sketch.** Two bounds that are both at least the number of ids give the same selection, by
induction on the first: a round with an id to look up leaves fewer ids, so both bounds are enough
for the next round. -/
theorem selectFrom_of_le {rounds : Nat} {ids : List String} (h : ids.length ≤ rounds) :
    m.selectFrom rounds ids = m.selectFrom ids.length ids := by
  suffices ∀ n n' (ids : List String), ids.length ≤ n → ids.length ≤ n' →
      m.selectFrom n ids = m.selectFrom n' ids from this _ _ ids h (Nat.le_refl _)
  intro n
  induction n with
  | zero =>
    intro n' ids hn hn'
    obtain rfl := List.length_eq_zero_iff.mp (Nat.le_zero.mp hn)
    funext s
    rw [selectFrom_nil, selectFrom_nil]
  | succ n ih =>
    intro n' ids hn hn'
    funext s
    by_cases hids : ids = []
    · rw [hids, selectFrom_nil, selectFrom_nil]
    -- the balancer always finds an id, and without it the list is shorter
    · have hpos := List.length_pos_iff.mpr hids
      obtain ⟨n', rfl⟩ : ∃ k, n' = k + 1 := ⟨n' - 1, by omega⟩
      obtain ⟨id, hid, hchoice⟩ := Balancer.exists_select s.balancer hids
      have hlt := length_filter_ne_lt hid
      rw [selectFrom_succ, selectFrom_succ, ← Prod.eta (s.balancer.select ids), hchoice]
      dsimp only
      rw [ih n' (ids.filter (· ≠ id)) (by omega) (by omega)]

/-- **A selection is a search**, whether or not it is watched.

**Proof sketch.** Induction on the rounds. The balancer chooses an id as long as one is left; its
lookup is noted, and it is a miss, a record or a failure. After a miss the ids left are fewer than
the rounds left, and the rest is a search by induction. -/
theorem selectFrom_watched (m : Manager ω) (s : State (Watched ω)) {rounds : Nat}
    {ids : List String} (h : ids.length ≤ rounds) :
    ∃ lookups outcome t, Search ids lookups outcome ∧
      t.world.lookups = s.world.lookups ++ lookups ∧ t.pool = s.pool ∧
      m.watched.selectFrom rounds ids s = State.settle outcome t ∧
      m.selectFrom rounds ids s.unwatched = State.settle outcome t.unwatched := by
  induction rounds generalizing ids s with
  | zero =>
    obtain rfl := List.length_eq_zero_iff.mp (Nat.le_zero.mp h)
    exact ⟨[], .ok none, s, .exhausted, (List.append_nil _).symm, rfl, rfl, rfl⟩
  | succ rounds ih =>
    by_cases hids : ids = []
    · subst hids
      refine ⟨[], .ok none, s, .exhausted, (List.append_nil _).symm, rfl, ?_, ?_⟩ <;>
        (rw [selectFrom_nil]; rfl)
    · obtain ⟨id, hid, hchoice⟩ := Balancer.exists_select s.balancer hids
      obtain ⟨balancer, hselect⟩ : ∃ b, s.balancer.select ids = (some id, b) :=
        ⟨_, Prod.ext hchoice rfl⟩
      have hselect' : s.unwatched.balancer.select ids = (some id, balancer) := hselect
      -- the state after the lookup, in which it is noted
      obtain ⟨t, ht⟩ : ∃ t : State (Watched ω), t =
        { s with balancer := balancer, world := (m.watched.workers.get id s.world).2 } := ⟨_, rfl⟩
      have hfind : m.watched.find? id { s with balancer := balancer } =
          .finished (Lookup.found (m.workers.get id s.world.base).1) t := by
        rw [find?_eq, ht]
        rfl
      have hfind' : m.find? id { s.unwatched with balancer := balancer } =
          .finished (Lookup.found (m.workers.get id s.world.base).1) t.unwatched := by
        rw [find?_eq, ht]
        rfl
      have hnoted : t.world.lookups =
          s.world.lookups ++ [⟨id, (m.workers.get id s.world.base).1⟩] := by rw [ht]; rfl
      have hpool : t.pool = s.pool := by rw [ht]
      simp only [selectFrom_succ, hselect, hselect', Operation.bind_apply, hfind, hfind']
      generalize (m.workers.get id s.world.base).1 = result at hnoted
      obtain ⟨hmiss, hfound⟩ | ⟨r, hresult, hfound⟩ | ⟨e, hresult, hother, hfound⟩ :=
        Lookup.cases ⟨id, result⟩
      · have hle : (ids.filter (· ≠ id)).length ≤ rounds := by
          have := length_filter_ne_lt hid
          omega
        obtain ⟨lookups, outcome, u, hsearch, hlookups, hu, hrun, hrun'⟩ := ih t hle
        refine ⟨⟨id, result⟩ :: lookups, outcome, u, .missed hid hmiss hsearch, ?_,
          hu.trans hpool, ?_, ?_⟩
        · rw [hlookups, hnoted, List.append_assoc, List.singleton_append]
        · rw [hfound]
          exact hrun
        · rw [hfound]
          exact hrun'
      · obtain rfl : result = .ok r := hresult
        exact ⟨_, .ok (some r), t, .found hid, hnoted, hpool, rfl, rfl⟩
      · obtain rfl : result = .error e := hresult
        refine ⟨_, .error e, t, .failed hid hother, hnoted, hpool, ?_, ?_⟩ <;>
          (rw [hfound]; rfl)

/-! ## Whom a selection misses -/

/-- A selection is a search through what the store lists, or the list cannot be had. -/
lemma selectWorker_watched (m : Manager ω) (s : State ω) :
    (∃ e u, (m.workers.ids s.world).1 = .error e ∧ u.world.lookups = [] ∧
      m.watched.selectWorker s.watched = .finished (.error e) u ∧
      m.selectWorker s = .finished (.error e) u.unwatched) ∨
    ∃ ids lookups outcome t, (m.workers.ids s.world).1 = .ok ids ∧ Search ids lookups outcome ∧
      t.world.lookups = lookups ∧ t.pool = s.pool ∧
      m.watched.selectWorker s.watched = State.settle outcome t ∧
      m.selectWorker s = State.settle outcome t.unwatched := by
  rcases hids : m.workers.ids s.world with ⟨e | ids, w⟩
  · have hids' : m.watched.workers.ids s.watched.world = (.error e, ⟨w, []⟩) :=
      Watched.unnoted_eq hids
    exact .inl ⟨e, { s.watched with world := ⟨w, []⟩ }, rfl, rfl,
      State.query_bind_error hids' _, State.query_bind_error hids _⟩
  · have hids' : m.watched.workers.ids s.watched.world = (.ok ids, ⟨w, []⟩) :=
      Watched.unnoted_eq hids
    obtain ⟨lookups, outcome, t, hsearch, hlookups, hpool, hrun, hrun'⟩ :=
      m.selectFrom_watched { s.watched with world := ⟨w, []⟩ } (Nat.le_refl ids.length)
    exact .inr ⟨ids, lookups, outcome, t, rfl, hsearch, hlookups, hpool,
      (State.query_bind_ok hids' _).trans hrun, (State.query_bind_ok hids _).trans hrun'⟩

/-- **A selection ends and misses nobody**, whatever the store lists and whatever it makes of each
lookup, with either way of balancing and at any of its turns. The bound on its rounds is as good as
none. It looks up none but listed ids, none of them twice, and goes on just as long as there are no
records. So it comes to no worker just if
there is none for any id, and it fails just if the list cannot be had or a lookup fails otherwise.
The worker that is selected is the one whose record was read last, at the address in it.

**Proof sketch.** By `selectWorker_watched` the selection is a search over the ids listed, or the
list cannot be had. What is said of the lookups are laws of searches; the three outcomes of one are
told apart by `none_iff` and `error_iff`; and the proxy of the worker found is the one that
`Pool.resolve` makes of the record read last. -/
theorem selection_misses_nobody (m : Manager ω) (s : State ω) :
    ∃ (r : Except Failure (Option Nat)) (u : State (Watched ω)),
      m.watched.selectWorker s.watched = .finished r u ∧
      m.selectWorker s = .finished r u.unwatched ∧
      match (m.workers.ids s.world).1 with
      | .error e => r = .error e ∧ u.world.lookups = []
      | .ok ids =>
        (∀ rounds, ids.length ≤ rounds → m.selectFrom rounds ids = m.selectFrom ids.length ids) ∧
        (∀ l ∈ u.world.lookups, l.id ∈ ids) ∧
        (u.world.lookups.map (·.id)).Nodup ∧
        u.world.lookups.length ≤ ids.dedup.length ∧
        (∀ l ∈ u.world.lookups.dropLast, l.IsMiss) ∧
        (∀ n, r = .ok (some n) → ∃ id ∈ ids, ∃ record : WorkerRecord,
          u.world.lookups.getLast? = some ⟨id, .ok record⟩ ∧
          (u.pool.proxy n).addr = record.addr ∧
          (s.pool.IsKeyed → (u.pool.proxy n).id = record.id)) ∧
        (r = .ok none ↔ ∀ id ∈ ids, ∃ l ∈ u.world.lookups, l.id = id ∧ l.IsMiss) ∧
        ∀ e, r = .error e ↔ ∃ l ∈ u.world.lookups, l.result = .error e ∧ ¬ l.IsMiss := by
  obtain ⟨e, u, hids, hnone, hrun, hrun'⟩ |
    ⟨ids, lookups, outcome, t, hids, hsearch, hlookups, hpool, hrun, hrun'⟩ :=
    m.selectWorker_watched s
  · rw [hids]
    exact ⟨.error e, u, hrun, hrun', rfl, hnone⟩
  · subst hlookups
    rw [hids]
    -- the result tells the three outcomes of a search apart
    have hnone := hsearch.none_iff
    have herror := hsearch.error_iff
    match outcome with
    | .error e =>
      refine ⟨.error e, t, hrun, hrun', fun _ => selectFrom_of_le, fun _ => hsearch.listed,
        hsearch.nodup, hsearch.length_le, fun _ => hsearch.isMiss_of_mem_dropLast,
        fun n hn => (by cases hn), ?_, ?_⟩
      · exact ⟨fun h => (by cases h), fun h => (by cases hnone.mpr h)⟩
      · exact fun e' => ⟨fun h => (herror e').mp (by cases h; rfl),
          fun h => (by cases (herror e').mpr h; rfl)⟩
    | .ok none =>
      refine ⟨.ok none, t, hrun, hrun', fun _ => selectFrom_of_le, fun _ => hsearch.listed,
        hsearch.nodup, hsearch.length_le, fun _ => hsearch.isMiss_of_mem_dropLast,
        fun n hn => (by cases hn), ?_, ?_⟩
      · exact ⟨fun _ => hnone.mp rfl, fun _ => rfl⟩
      · exact fun e' => ⟨fun h => (by cases h), fun h => (by cases (herror e').mpr h)⟩
    | .ok (some record) =>
      obtain ⟨id, hid, hlast⟩ := hsearch.getLast?_of_found
      refine ⟨.ok (some (t.pool.resolve record).1), { t with pool := (t.pool.resolve record).2 },
        hrun, hrun', fun _ => selectFrom_of_le, fun _ => hsearch.listed, hsearch.nodup,
        hsearch.length_le, fun _ => hsearch.isMiss_of_mem_dropLast, fun n hn => ?_, ?_, ?_⟩
      · obtain rfl := Option.some.inj (Except.ok.inj hn)
        refine ⟨id, hid, record, hlast, Pool.addr_resolve t.pool record, fun hkeyed => ?_⟩
        rw [← hpool] at hkeyed
        exact congrArg Contact.id (Pool.contact_resolve hkeyed record).2
      · exact ⟨fun h => (by cases h), fun h => (by cases hnone.mpr h)⟩
      · exact fun e' => ⟨fun h => (by cases h), fun h => (by cases (herror e').mpr h)⟩

/-- Two entries of the list for a worker that is not there: it is looked up once, and nobody is
selected. -/
theorem selection_misses_nobody_ghosts :
    let c : Scheduler (Faulty Site) :=
      ⟨Scheduler.strict.stores.withFaults, Scheduler.strict.settings, false⟩
    let m := c.manager
    let s : State (Faulty Site) :=
      { world := ⟨Scheduler.initial.world, [], ["g", "g"]⟩, balancer := .roundRobin 0 }
    (m.workers.ids s.world).1 = .ok ["g", "g"] ∧ ∃ u,
      m.watched.selectWorker s.watched = .finished (.ok none) u ∧
      u.world.lookups.length = 1 ∧ ∃ l ∈ u.world.lookups, l.id = "g" ∧ l.IsMiss := by
  intro c m s
  have hids : (m.workers.ids s.world).1 = .ok ["g", "g"] := by decide +kernel
  have hnobody : ((m.selectWorker s).run fun _ => .unanswered).1 = .ok none := by decide +kernel
  obtain ⟨r, u, hrun, hrun', h⟩ := selection_misses_nobody m s
  rw [hids] at h
  rw [hrun'] at hnobody
  obtain rfl : r = .ok none := hnobody
  obtain ⟨-, -, -, hlength, -, -, hmissed, -⟩ := h
  obtain ⟨l, hl, hmiss⟩ := hmissed.mp rfl "g" (by decide)
  have hpos := List.length_pos_of_mem hl
  have hdistinct : (["g", "g"] : List String).dedup.length = 1 := by decide
  exact ⟨hids, u, hrun, by omega, l, hl, hmiss⟩

end Manager

end ConversionScheduler
