import ConversionScheduler.Proofs.Fairness
import ConversionScheduler.Proofs.SerialRuns
/-!
# The weights that a balancer applies

A balancer has weights of its own, beside those in the records of the workers. It is told a weight
when a worker registers and when it gives a sign of life, and at no other time: a worker whose
record was in the store before the process was started has a weight of 1 until then, whatever its
record says. If operations do not overlap, that is all: from then on the weight is that of the
record, for as long as the record is there.

## Main definitions

* `Manager.State.IsTold` — a worker has registered or given a sign of life.
* `WorkerBackend.Keeps` — what a site has to be like for a store to be used.
* `Manager.State.IsWeighed` — the balancer has been told the weights, as far as it has been told.

## Main results

* `Manager.State.IsWeighed.greeted`, `Manager.State.IsWeighed.forget` — what changes the weights.
* `Manager.keeps_sweep` — a sweep that nothing overlaps with changes no weight of a live worker.
* `Scheduler.Demand.keeps_weighed` — every demand keeps the balancer told.
* `weights_applied` — the weights with which a worker is selected.
-/

namespace ConversionScheduler

open Manager (State)
open Manager.State (query resolve change observe note count call)
open Relation (ReflTransGen)

/-! ## Who has been heard of -/

/-- The worker whose weight the balancer is told on this occasion, if there is one. -/
def Note.told? : Note → Option String
  | registered q _ => some q.id
  | heard via => some via.id
  | _ => none

/-- Whether a worker has registered or given a sign of life so far. -/
def Manager.State.IsTold {ω : Type} (s : State ω) (id : String) : Prop :=
  ∃ n ∈ s.journal, n.told? = some id

/-- After one more note, those have been heard of who had been before, and the worker whom the note
tells about. -/
lemma Manager.State.isTold_of_cons {ω : Type} {s t : State ω} {n : Note}
    (h : t.journal = n :: s.journal) (id : String) :
    t.IsTold id ↔ n.told? = some id ∨ s.IsTold id := by
  simp [IsTold, h]

/-! ## The store -/

namespace WorkerBackend

/-- Whether a site holds the workers of a registry, each under its own id, at a time at which a
lease can begin. -/
structure Keeps (b : WorkerBackend) (reg : Registry) (s : Site) : Prop where
  holds : b.Holds reg s
  keyed : reg.IsKeyed b.lease s.clock
  deadline : (s.clock.deadline? b.lease).isSome = true

variable {b : WorkerBackend} {reg : Registry} {s s' : Site}

/-- A call of the store does what it should. -/
lemma Keeps.perform (h : b.Keeps reg s) (hb : b.IsValid) {store : WorkerStore Site}
    (hstore : store = b.store) (call : WorkerCall) (hsized : call.isSized = true)
    {a : Except Failure WorkerAnswer} (hrun : call.perform store s = (a, s')) :
    reg.Answers b.lease s.clock call a ∧ b.Keeps (reg.next b.lease s.clock call) s' ∧
      s'.clock = s.clock := by
  rw [hstore] at hrun
  obtain ⟨hanswers, hholds, hclock⟩ :=
    answers_of_perform hb h.holds h.deadline call hsized hrun
  refine ⟨hanswers, ⟨hholds, ?_, ?_⟩, hclock⟩
  · rw [hclock]
    exact h.keyed.next call hsized
  · rw [hclock]
    exact h.deadline

/-- The time goes on. -/
lemma Keeps.later (h : b.Keeps reg s) (hb : b.IsValid) (hs : Site.Later b.lease s s') :
    b.Keeps reg s' ∧ ∀ id l, reg.live? b.lease s'.clock id = some l →
      reg.live? b.lease s.clock id = some l := by
  obtain ⟨c, rfl, hc, hdeadline⟩ := hs
  have hlive : ∀ id l, reg.live? b.lease c id = some l →
      reg.live? b.lease s.clock id = some l := by
    intro id l hl
    rw [Registry.live?_later hc] at hl
    exact (Option.filter_eq_some_iff.mp hl).1
  exact ⟨⟨(refines hb).later c h.holds hc, fun id l hl => h.keyed id l (hlive id l hl), hdeadline⟩,
    hlive⟩

/-- The end of the store leaves no more workers than there were. -/
lemma Keeps.close (h : b.Keeps reg s) :
    ∃ reg', b.Keeps reg' (b.store.close s).2 ∧ (b.store.close s).2.clock = s.clock ∧
      ∀ now id l, reg'.live? b.lease now id = some l → reg.live? b.lease now id = some l := by
  cases b with
  | memory ttl =>
    exact ⟨.empty, ⟨MemoryWorkers.holds_empty ttl rfl, Registry.isKeyed_empty _ _, h.deadline⟩, rfl,
      fun _ _ _ hl => absurd hl (by simp [Registry.live?, Registry.empty])⟩
  | redis w => exact ⟨reg, h, rfl, fun _ _ _ hl => hl⟩

end WorkerBackend

/-! ## What the balancer has been told -/

namespace Manager

/-- What happens by itself: the time goes on. -/
abbrev State.elapsing (b : WorkerBackend) (s t : State Site) : Prop :=
  ∃ w, Site.Later b.lease s.world w ∧ t = { s with world := w }

/-- Whether the balancer applies the weights in the records of the workers that it has been told
about, and 1 to all others. -/
structure State.IsWeighed (b : WorkerBackend) (reg : Registry) (s : State Site) : Prop where
  stored : b.Keeps reg s.world
  weighted : s.balancer.IsWeighted
  untold : ∀ id, ¬ s.IsTold id → s.balancer.weight id = 1
  told : ∀ id l, reg.live? b.lease s.world.clock id = some l → s.IsTold id →
    s.balancer.weight id = max l.record.weight 1

namespace State.IsWeighed

variable {b : WorkerBackend} {reg reg' : Registry} {s t : State Site} {id : String}

/-- If no record comes about or is given another weight, and nothing is told, then nothing has to
change. -/
lemma transfer (h : s.IsWeighed b reg) (hstored : b.Keeps reg' t.world)
    (hbalancer : t.balancer.weight = s.balancer.weight)
    (hweighted : t.balancer.IsWeighted ↔ s.balancer.IsWeighted)
    (htold : ∀ id, t.IsTold id ↔ s.IsTold id)
    (hlive : ∀ id l, reg'.live? b.lease t.world.clock id = some l →
      ∃ l₀, reg.live? b.lease s.world.clock id = some l₀ ∧ l₀.record.weight = l.record.weight) :
    t.IsWeighed b reg' where
  stored := hstored
  weighted := hweighted.mpr h.weighted
  untold id hid := by
    rw [hbalancer]
    exact h.untold id fun htold' => hid ((htold id).mpr htold')
  told id l hl hid := by
    obtain ⟨l₀, hl₀, hsame⟩ := hlive id l hl
    rw [hbalancer, ← hsame]
    exact h.told id l₀ hl₀ ((htold id).mp hid)

/-- The world and what is told remain, and the balancer keeps its weights. -/
lemma congr (h : s.IsWeighed b reg) (hworld : t.world = s.world)
    (hbalancer : t.balancer = s.balancer) (htold : ∀ id, t.IsTold id ↔ s.IsTold id) :
    t.IsWeighed b reg :=
  h.transfer (hworld ▸ h.stored) (by rw [hbalancer]) (by rw [hbalancer]) htold
    fun id l hl => ⟨l, by rwa [hworld] at hl, rfl⟩

/-- Something is noted about which the balancer is told nothing. -/
lemma noted (h : s.IsWeighed b reg) {n : Note} (hn : n.told? = none) :
    IsWeighed b reg { s with journal := n :: s.journal } :=
  h.congr rfl rfl fun id => (isTold_of_cons rfl id).trans (by simp [hn])

/-- As time passes, records run out and no weight changes. -/
lemma later (h : s.IsWeighed b reg) (hb : b.IsValid) (ht : s.elapsing b t) :
    t.IsWeighed b reg := by
  obtain ⟨w, hw, rfl⟩ := ht
  obtain ⟨hstored, hlive⟩ := h.stored.later hb hw
  exact h.transfer hstored rfl Iff.rfl (fun _ => Iff.rfl) fun id l hl => ⟨l, hlive id l hl, rfl⟩

/-- A worker that is not there is forgotten. -/
lemma forget (h : s.IsWeighed b reg) (hid : reg.live? b.lease s.world.clock id = none) :
    (s.forget id).IsWeighed b reg where
  stored := h.stored
  weighted := (Balancer.isWeighted_forget id).mpr h.weighted
  untold id' htold := by
    show (s.balancer.forget id).weight id' = 1
    rw [Balancer.weight_forget]
    split
    · rfl
    · exact h.untold id' htold
  told id' l hl htold := by
    have hne : id' ≠ id := by
      rintro rfl
      exact absurd (hid.symm.trans hl) (by simp)
    show (s.balancer.forget id).weight id' = _
    rw [Balancer.weight_forget, if_neg hne]
    exact h.told id' l hl htold

/-- The balancer is told the weight of a worker whose record has just been written. -/
lemma greeted (h : s.IsWeighed b reg) (hstored : b.Keeps reg' t.world) {r : WorkerRecord}
    (hbalancer : t.balancer = s.balancer.observe r.id r.weight)
    (htold : ∀ id, t.IsTold id ↔ id = r.id ∨ s.IsTold id)
    (hsame : ∀ l, reg'.live? b.lease t.world.clock r.id = some l → l.record.weight = r.weight)
    (hothers : ∀ id, id ≠ r.id →
      reg'.live? b.lease t.world.clock id = reg.live? b.lease s.world.clock id) :
    t.IsWeighed b reg' where
  stored := hstored
  weighted := by
    rw [hbalancer, Balancer.isWeighted_observe]
    exact h.weighted
  untold id hid := by
    obtain ⟨hne, hid⟩ := not_or.mp fun h' => hid ((htold id).mpr h')
    rw [hbalancer, Balancer.weight_observe h.weighted, if_neg hne]
    exact h.untold id hid
  told id l hl hid := by
    rw [hbalancer, Balancer.weight_observe h.weighted]
    split
    · rename_i heq
      subst heq
      rw [hsame l hl]
    · rename_i hne
      rw [hothers id hne] at hl
      exact h.told id l hl (((htold id).mp hid).resolve_left hne)

/-- A record is written, and the balancer is told its weight. -/
lemma written (h : s.IsWeighed b reg) {r : WorkerRecord}
    (hstored : b.Keeps (Function.update reg r.id (some (.start s.world.clock r))) t.world)
    (hclock : t.world.clock = s.world.clock)
    (hbalancer : t.balancer = s.balancer.observe r.id r.weight) {n : Note}
    (hjournal : t.journal = n :: s.journal) (hn : n.told? = some r.id) :
    t.IsWeighed b (Function.update reg r.id (some (.start s.world.clock r))) := by
  refine h.greeted hstored hbalancer (fun id => ?_) (fun l hl => ?_) fun id hid => ?_
  · rw [isTold_of_cons hjournal, hn, Option.some.injEq, eq_comm (a := r.id)]
  · rw [Registry.live?_update, if_pos rfl] at hl
    rw [← Option.some.inj (Option.filter_eq_some_iff.mp hl).1]
    rfl
  · rw [Registry.live?_update, if_neg hid, hclock]

end State.IsWeighed

/-- Whether the balancer applies the weights that it has been told. -/
def State.Weighed (b : WorkerBackend) (s : State Site) : Prop := ∃ reg, s.IsWeighed b reg

/-- A balancer that has been told nothing yet. -/
lemma State.weighed_of_fresh {b : WorkerBackend} {s : State Site} {counter : UInt64}
    (hs : b.IsGood s.world) (hjournal : s.journal = [])
    (hbalancer : s.balancer = .weighted counter .empty) : s.Weighed b := by
  obtain ⟨reg, hholds, hkeyed, hdeadline⟩ := hs
  have hnobody : ∀ id, ¬ s.IsTold id := by simp [IsTold, hjournal]
  refine ⟨reg, ⟨hholds, hkeyed, hdeadline⟩, ?_, fun id _ => ?_, fun id _ _ htold => ?_⟩
  · rw [hbalancer]
    trivial
  · rw [hbalancer]
    rfl
  · exact absurd htold (hnobody id)

/-! ## The steps of an operation -/

/-- Whether something is about the store and the weights only, and time does not change it. -/
structure State.Stable (b : WorkerBackend) (inv : State Site → Prop) : Prop where
  later : ∀ {s t : State Site}, s.elapsing b t → inv s → inv t
  pool : ∀ {s : State Site} (pool : Pool), inv s → inv { s with pool := pool }
  metrics : ∀ {s : State Site} (metrics : Metrics), inv s → inv { s with metrics := metrics }
  noted : ∀ {s : State Site} {n : Note}, n.told? = none → inv s →
    inv { s with journal := n :: s.journal }

namespace State.Stable

variable {b : WorkerBackend} {inv : State Site → Prop} (h : State.Stable b inv)

include h

/-- Resolving a record is about the pool only. -/
lemma keeps_resolve (r : WorkerRecord) : Operation.Keeps (State.elapsing b) inv (resolve r) :=
  Operation.keeps_step fun _ => h.pool _

/-- Counting is about the counters only. -/
lemma keeps_count (f : Metrics → Metrics) : Operation.Keeps (State.elapsing b) inv (count f) :=
  Operation.keeps_update fun _ => h.metrics _

/-- A note about which the balancer is told nothing does not matter. -/
lemma keeps_note {f : State Site → Note} (hf : ∀ s, (f s).told? = none) :
    Operation.Keeps (State.elapsing b) inv (note f) :=
  Operation.keeps_update fun s => h.noted (hf s)

/-- A request to a worker. -/
lemma keeps_call {α : Type} (n : Nat) (c : Proxy → Call α) :
    Operation.Keeps (State.elapsing b) inv (call n c) := by
  intro s hs
  unfold call Call.run
  cases (c (s.pool.proxy n)).request with
  | error fault => exact h.pool _ hs
  | ok r =>
    intro o t ht
    have hlater : inv t := by
      induction ht with
      | refl => exact hs
      | tail _ hstep ih => exact h.later hstep ih
    exact h.pool _ hlater

end State.Stable

section Stable

variable {b : WorkerBackend}

/-- What the balancer has been told about a certain registry is such a property. -/
lemma stable_isWeighed (hb : b.IsValid) (reg : Registry) :
    State.Stable b fun s => s.IsWeighed b reg where
  later ht h := h.later hb ht
  pool _ h := h.congr rfl rfl fun _ => Iff.rfl
  metrics _ h := h.congr rfl rfl fun _ => Iff.rfl
  noted hn h := h.noted hn

/-- So is that it has been told the weights. -/
lemma stable_weighed (hb : b.IsValid) : State.Stable b (State.Weighed b) where
  later ht := fun ⟨reg, h⟩ => ⟨reg, h.later hb ht⟩
  pool _ := fun ⟨reg, h⟩ => ⟨reg, h.congr rfl rfl fun _ => Iff.rfl⟩
  metrics _ := fun ⟨reg, h⟩ => ⟨reg, h.congr rfl rfl fun _ => Iff.rfl⟩
  noted hn := fun ⟨reg, h⟩ => ⟨reg, h.noted hn⟩

end Stable

/-! ## The manager -/

section Operations

variable {b : WorkerBackend} {m : Manager Site} {reg : Registry} {s : State Site} {id : String}

/-- Whether a record of a worker is one of a registry. -/
structure Files (reg : Registry) (id : String) (r : WorkerRecord) : Prop where
  named : r.id = id
  sized : (WorkerCall.heartbeat r).isSized = true
  filed : ∃ l, reg id = some l ∧ l.record = r

variable (hb : b.IsValid) (hm : m.workers = b.store)

include hb hm

namespace State.IsWeighed

/-- A call that reads is answered from the registry, and leaves it. -/
lemma read (h : s.IsWeighed b reg) (call : WorkerCall) (hread : call.isRead = true)
    {a : Except Failure WorkerAnswer} {w : Site} (hrun : call.perform m.workers s.world = (a, w)) :
    IsWeighed b reg { s with world := w } ∧ reg.Answers b.lease s.world.clock call a ∧
      w.clock = s.world.clock := by
  obtain ⟨hanswers, hstored, hclock⟩ :=
    h.stored.perform hb hm call (WorkerCall.isSized_of_isRead hread) hrun
  rw [Registry.next_of_isRead hread] at hstored
  exact ⟨h.transfer hstored rfl Iff.rfl (fun _ => Iff.rfl)
    fun id l hl => ⟨l, by rwa [show w.clock = _ from hclock] at hl, rfl⟩, hanswers, hclock⟩

/-- A call that fails. -/
lemma failed (h : s.IsWeighed b reg) (call : WorkerCall) (hsized : call.isSized = true)
    {e : Failure} {w : Site} (hrun : call.perform m.workers s.world = (.error e, w)) :
    IsWeighed b reg { s with world := w } := by
  obtain ⟨hanswers, hstored, hclock⟩ := h.stored.perform hb hm call hsized hrun
  rw [Registry.next_of_error hanswers] at hstored
  exact h.transfer hstored rfl Iff.rfl (fun _ => Iff.rfl)
    fun id l hl => ⟨l, by rwa [show w.clock = _ from hclock] at hl, rfl⟩

end State.IsWeighed

/-! ### Reading -/

/-- The workers are listed, and then the record of each of them can be read. -/
lemma State.IsWeighed.listed (h : s.IsWeighed b reg) :
    ∃ ids w, m.workers.ids s.world = (.ok ids, w) ∧ ∀ id ∈ ids, ∃ l w',
      m.workers.get id w = (.ok l.record, w') ∧
        reg.live? b.lease s.world.clock id = some l := by
  rcases hids : m.workers.ids s.world with ⟨a, w⟩
  obtain ⟨hread, hanswers, hclock⟩ := h.read hb hm .ids rfl (perform_ids hids)
  obtain ⟨ids, rfl, hmem⟩ := Registry.exists_of_answers_ids hanswers
  refine ⟨ids, w, rfl, fun id hid => ?_⟩
  obtain ⟨l, hl⟩ := Option.isSome_iff_exists.mp ((hmem id).mp hid)
  rcases hget : m.workers.get id w with ⟨a, w'⟩
  obtain ⟨-, hanswers, -⟩ := hread.read hb hm (.get id) rfl (perform_get hget)
  have hfound := Registry.eq_of_answers_get hanswers
  rw [show State.world _ = w from rfl, hclock, hl] at hfound
  obtain rfl : a = .ok l.record := hfound
  exact ⟨l, w', rfl, hl⟩

/-- A record that is found is one of the registry. -/
lemma yields_find? (h : s.IsWeighed b reg) (id : String) :
    (m.find? id s).Yields (State.elapsing b) fun r t => t.IsWeighed b reg ∧
      ∀ record, r = .ok (some record) → Files reg id record := by
  obtain ⟨r, w, hget, hfind⟩ | ⟨e, w, hget, hfind | ⟨e', hfind⟩⟩ := find?_cases m id s
  · obtain ⟨hread, hanswers, -⟩ := h.read hb hm (.get id) rfl (perform_get hget)
    obtain ⟨l, hl, rfl⟩ := Registry.live?_of_get hanswers
    rw [hfind]
    refine ⟨hread.congr rfl rfl fun _ => Iff.rfl, fun record hrecord => ?_⟩
    obtain rfl := Option.some.inj (Except.ok.inj hrecord)
    obtain ⟨hname, hsized⟩ := h.stored.keyed id l hl
    exact ⟨hname, decide_eq_true hsized, l, (Option.filter_eq_some_iff.mp hl).1, rfl⟩
  · rw [hfind]
    exact ⟨(h.read hb hm (.get id) rfl (perform_get hget)).1, fun _ hr => by cases hr⟩
  · rw [hfind]
    exact ⟨(h.read hb hm (.get id) rfl (perform_get hget)).1, fun _ hr => by cases hr⟩

/-- A look for a worker leaves the weights as they should be. -/
lemma keeps_get (id : String) :
    Operation.Keeps (State.elapsing b) (State.Weighed b) (query (m.workers.get id)) := by
  rintro s ⟨reg, h⟩
  rcases hget : m.workers.get id s.world with ⟨a, w⟩
  rw [State.query_eq hget]
  exact ⟨reg, (h.read hb hm (.get id) rfl (perform_get hget)).1⟩

/-- So does a listing. -/
lemma keeps_ids :
    Operation.Keeps (State.elapsing b) (State.Weighed b) (query m.workers.ids) := by
  rintro s ⟨reg, h⟩
  rcases hids : m.workers.ids s.world with ⟨a, w⟩
  rw [State.query_eq hids]
  exact ⟨reg, (h.read hb hm .ids rfl (perform_ids hids)).1⟩

/-- So does a look at a record, whether or not it is there. -/
lemma keeps_find? (id : String) :
    Operation.Keeps (State.elapsing b) (State.Weighed b) (m.find? id) :=
  fun _ ⟨reg, h⟩ => (yields_find? hb hm h id).mono fun _ _ ht => ⟨reg, ht.1⟩

/-- A choice moves the counter, and reading a record leaves the weights. -/
lemma keeps_selectFrom (rounds : Nat) (ids : List String) :
    Operation.Keeps (State.elapsing b) (State.Weighed b) (m.selectFrom rounds ids) := by
  induction rounds generalizing ids with
  | zero => exact Operation.keeps_pure none
  | succ rounds ih =>
    refine (Operation.keeps_step fun s hs => ?_).bind fun choice => ?_
    · obtain ⟨reg, h⟩ := hs
      obtain ⟨hweight, hweighted⟩ := s.balancer.weight_select ids
      exact ⟨reg, h.transfer h.stored hweight hweighted (fun _ => Iff.rfl)
        fun id l hl => ⟨l, hl, rfl⟩⟩
    · cases choice with
      | none => exact Operation.keeps_pure none
      | some id =>
        refine (keeps_find? hb hm id).bind fun r => ?_
        cases r with
        | none => exact ih _
        | some r =>
          exact ((stable_weighed hb).keeps_resolve r).bind fun n => Operation.keeps_pure _

/-- A selection leaves the weights as they should be. -/
lemma keeps_selectWorker :
    Operation.Keeps (State.elapsing b) (State.Weighed b) m.selectWorker :=
  (keeps_ids hb hm).bind fun ids => keeps_selectFrom hb hm ids.length ids

/-- So does a look for a worker and its proxy. -/
lemma keeps_getWorker (id : String) :
    Operation.Keeps (State.elapsing b) (State.Weighed b) (m.getWorker id) :=
  (keeps_get hb hm id).bind (stable_weighed hb).keeps_resolve

/-- What is told about workers leaves the weights as they should be. -/
lemma keeps_summaries (ids : List String) :
    Operation.Keeps (State.elapsing b) (State.Weighed b) (m.summaries ids) := by
  induction ids with
  | nil => exact Operation.keeps_pure _
  | cons id ids ih =>
    refine (keeps_find? hb hm id).bind fun r => ?_
    cases r with
    | none => exact ih
    | some r =>
      exact ((stable_weighed hb).keeps_resolve r).bind fun n =>
        (Operation.keeps_read _).bind fun p => ih.bind fun rest => Operation.keeps_pure _

/-- So does their list. -/
lemma keeps_listWorkers :
    Operation.Keeps (State.elapsing b) (State.Weighed b) m.listWorkers :=
  (keeps_ids hb hm).bind fun ids => keeps_summaries hb hm ids

/-! ### Membership -/

/-- The record, the proxy and the weight of a worker go together, unless the store fails. Then all
of them stay. -/
lemma keeps_withdraw (id : String) :
    Operation.Keeps (State.elapsing b) (State.Weighed b) (m.withdraw id) := by
  rintro s ⟨reg, h⟩
  show ((query (m.workers.remove id) >>= _) s).Yields _ _
  rcases hremove : m.workers.remove id s.world with ⟨e | ⟨⟩, w⟩
  · rw [State.query_bind_error hremove]
    exact ⟨reg, h.failed hb hm (.remove id) rfl (perform_remove hremove)⟩
  · rw [State.query_bind_ok hremove]
    obtain ⟨-, hstored, hclock⟩ :=
      h.stored.perform hb hm (.remove id) rfl (perform_remove hremove)
    have hgone : ∀ id', Registry.live? b.lease w.clock (Function.update reg id none) id' =
        if id' = id then none else reg.live? b.lease s.world.clock id' := fun id' => by
      rw [Registry.live?_update, show w.clock = _ from hclock]
      rfl
    have hrest : State.IsWeighed b (Function.update reg id none) { s with world := w } :=
      h.transfer hstored rfl Iff.rfl (fun _ => Iff.rfl) fun id' l hl => by
        rw [show State.world _ = w from rfl, hgone] at hl
        split at hl
        · exact absurd hl (by simp)
        · exact ⟨l, hl, rfl⟩
    exact ⟨_, hrest.forget ((hgone id).trans (if_pos rfl))⟩

/-- The removal of a worker leaves the weights as they should be. -/
lemma keeps_removeWorker (id : String) :
    Operation.Keeps (State.elapsing b) (State.Weighed b) (m.removeWorker id) :=
  (keeps_withdraw hb hm id).bind fun _ => (stable_weighed hb).keeps_note fun _ => rfl

/-- So does an eviction. -/
lemma keeps_evict (id : String) (cause : State Site → EvictionCause) :
    Operation.Keeps (State.elapsing b) (State.Weighed b) (m.evict id cause) :=
  (keeps_withdraw hb hm id).bind fun _ => ((stable_weighed hb).keeps_count _).bind fun _ =>
    (stable_weighed hb).keeps_note fun _ => rfl

/-- A registration tells the balancer the weight that it writes. If the worker is gone before its
first sign of life is written, then it is not there.

**Proof sketch.** The store is asked to add the record and then to renew it. If the first call
fails, nothing was written; if the second does, then because the record has gone, and what is left
of the registry is what it was; if both work, the weight written is the weight noted. -/
lemma keeps_addWorker {q : Registration} (hq : q.weight < Dialect.bound32) :
    Operation.Keeps (State.elapsing b) (State.Weighed b) (m.addWorker q) := by
  rintro s ⟨reg, h⟩
  have hsized := isSized_ofRegistration (m.now s.world) hq
  show ((query (m.workers.add (.ofRegistration q (m.now s.world))) >>= _) s).Yields _ _
  obtain ⟨record, hrecord⟩ : ∃ r, r = WorkerRecord.ofRegistration q (m.now s.world) := ⟨_, rfl⟩
  have hid : record.id = q.id := by
    rw [hrecord]
    rfl
  rw [← hrecord] at hsized ⊢
  rcases hadd : m.workers.add record s.world with ⟨e | ⟨⟩, w⟩
  · rw [State.query_bind_error hadd]
    exact ⟨reg, h.failed hb hm (.add record) hsized.1 (perform_add hadd)⟩
  rw [State.query_bind_ok hadd]
  obtain ⟨-, hwritten, hclock⟩ :=
    h.stored.perform hb hm (.add record) hsized.1 (perform_add hadd)
  show ((query (m.workers.heartbeat record) >>= _) { s with world := w }).Yields _ _
  rcases hheard : m.workers.heartbeat record w with ⟨e | r, w'⟩
  all_goals
    obtain ⟨hanswers, hstored, hclock'⟩ :=
      hwritten.perform hb hm (.heartbeat record) hsized.2 (perform_heartbeat hheard)
  -- the second call can fail only because the lease of the first has ended already
  · rw [State.query_bind_error hheard]
    rw [Registry.next_of_error hanswers] at hstored
    rw [Registry.Answers] at hanswers
    split at hanswers
    · exact absurd hanswers (by simp [Except.map])
    · rename_i hgone
      refine ⟨_, h.transfer (t := { s with world := w' }) hstored rfl Iff.rfl (fun _ => Iff.rfl)
        fun id l hl => ?_⟩
      rw [show State.world _ = w' from rfl, hclock'] at hl
      by_cases hsame : id = record.id
      · rw [hsame] at hl
        exact absurd (by rw [hl]; rfl) hgone
      · rw [Registry.next, Registry.live?_update, if_neg hsame, hclock] at hl
        exact ⟨l, hl, rfl⟩
  · rw [State.query_bind_ok hheard]
    obtain ⟨rfl, hnext⟩ := Registry.next_of_heartbeat hanswers
    rw [hnext, Registry.next, Function.update_idem, hclock] at hstored
    rw [hclock]
    exact ⟨_, h.written hstored (hclock'.trans hclock) rfl rfl (congrArg some hid.symm)⟩

/-- A sign of life tells the balancer the weight that is in the record.

**Proof sketch.** The record is read and written back with the time. If both calls work, what is
noted is the weight of the record written; if one fails, the registry has the records it had. -/
lemma yields_heartbeat (h : s.Weighed b) (hpool : s.pool.IsKeyed) (id : String) :
    (m.heartbeat id s).Yields (State.elapsing b) fun _ t => t.Weighed b := by
  obtain ⟨reg, h⟩ := h
  show ((query (m.workers.get id) >>= _) s).Yields _ _
  rcases hget : m.workers.get id s.world with ⟨e | r₀, w⟩
  · rw [State.query_bind_error hget]
    exact ⟨reg, (h.read hb hm (.get id) rfl (perform_get hget)).1⟩
  rw [State.query_bind_ok hget]
  obtain ⟨hread, hanswers, hclock⟩ := h.read hb hm (.get id) rfl (perform_get hget)
  obtain ⟨l, hl, rfl⟩ := Registry.live?_of_get hanswers
  have hsized : (WorkerCall.heartbeat l.record).isSized = true :=
    decide_eq_true (h.stored.keyed id l hl).2
  show ((query (m.workers.heartbeat l.record) >>= _) { s with world := w }).Yields _ _
  rcases hheard : m.workers.heartbeat l.record w with ⟨e | r, w'⟩
  · rw [State.query_bind_error hheard]
    exact ⟨reg, hread.failed hb hm (.heartbeat l.record) hsized (perform_heartbeat hheard)⟩
  · rw [State.query_bind_ok hheard]
    obtain ⟨hanswers', hstored, hclock'⟩ :=
      hread.stored.perform hb hm (.heartbeat l.record) hsized (perform_heartbeat hheard)
    obtain ⟨rfl, hnext⟩ := Registry.next_of_heartbeat hanswers'
    rw [hnext] at hstored
    obtain ⟨hmade, hcontact⟩ := Pool.contact_resolve hpool (l.record.touch w.clock.wall)
    have hnamed := ((Pool.extends_change (n := (s.pool.resolve (l.record.touch w.clock.wall)).1)
      Proxy.resetErrors_name).contact _ hmade).trans hcontact
    exact ⟨_, hread.written (r := l.record.touch w.clock.wall) hstored hclock' rfl rfl
      (congrArg (fun via => some (Contact.id via)) hnamed)⟩

/-! ### Sweeps -/

/-- What is written back after a health check is the record that is there, if there is one.

**Proof sketch.** The record judged is still the one that is written, since only its time changes. A
failure leaves the registry, and success leaves every weight in it. -/
lemma yields_renew (h : s.IsWeighed b reg) {r : WorkerRecord} (hr : Files reg id r) :
    (m.renew r s).Yields (State.elapsing b) fun _ t => t.Weighed b := by
  obtain ⟨rfl, hsized, l, hl, rfl⟩ := hr
  rw [renew, Operation.bind_apply]
  show (((query (m.workers.heartbeat l.record) s).andThen _).andThen _).Yields _ _
  rcases hheard : m.workers.heartbeat l.record s.world with ⟨e | r', w⟩
  · rw [State.query_eq hheard]
    have hfailed := h.failed hb hm (.heartbeat l.record) hsized (perform_heartbeat hheard)
    cases e with
    | crashed => exact ⟨reg, hfailed⟩
    | reported e =>
      cases e with
      | workerNotFound id' => exact ⟨reg, hfailed⟩
      | _ => exact ⟨reg, hfailed⟩
  · rw [State.query_eq hheard]
    obtain ⟨hanswers, hstored, hclock⟩ :=
      h.stored.perform hb hm (.heartbeat l.record) hsized (perform_heartbeat hheard)
    obtain ⟨rfl, hnext⟩ := Registry.next_of_heartbeat hanswers
    rw [hnext] at hstored
    have hlive : (reg.live? b.lease s.world.clock l.record.id).isSome = true := by
      rw [Registry.Answers] at hanswers
      by_contra hgone
      rw [if_neg hgone] at hanswers
      exact absurd hanswers (by simp [Except.map])
    obtain ⟨l', hl'⟩ := Option.isSome_iff_exists.mp hlive
    obtain rfl := Option.some.inj (hl.symm.trans (Option.filter_eq_some_iff.mp hl').1)
    refine ⟨_, State.IsWeighed.noted (s := { s with world := w }) (h.transfer hstored rfl Iff.rfl
      (fun _ => Iff.rfl) fun id x hx => ?_) rfl⟩
    rw [show State.world _ = w from rfl, hclock, Registry.live?_update] at hx
    split at hx
    · rename_i hid
      rw [hid]
      refine ⟨l, hl', ?_⟩
      rw [← Option.some.inj (Option.filter_eq_some_iff.mp hx).1]
      rfl
    · exact ⟨x, hx, rfl⟩

/-- What follows a health check leaves the weights as they should be: the worker is renewed, or
evicted, or kept. -/
lemma yields_conclude (h : s.IsWeighed b reg) {r : WorkerRecord} (hr : Files reg id r) (n : Nat)
    (outcome : Except Error WorkerStatus) :
    (m.conclude id r n outcome s).Yields (State.elapsing b) fun _ t => t.Weighed b := by
  cases outcome with
  | ok status =>
    refine Operation.yields_bind (((stable_isWeighed hb reg).keeps_note fun _ => rfl) s h)
      (fun _ t ht => ?_) fun _ _ ht => ⟨reg, ht⟩
    exact Operation.yields_bind (yields_renew hb hm ht hr) (fun _ _ hu => hu) fun _ _ hu => hu
  | error e =>
    refine Operation.Keeps.bind ((stable_weighed hb).keeps_note fun _ => rfl) (fun _ =>
      ((stable_weighed hb).keeps_count _).bind fun _ =>
        (Operation.keeps_read _).bind fun errors => ?_) s ⟨reg, h⟩
    split
    · exact (keeps_evict hb hm id _).bind fun _ => Operation.keeps_pure _
    · exact Operation.keeps_pure _

/-- A health check leaves the weights as they should be if nothing overlaps with it: what is read
before the request is still there after it, if anything is. -/
lemma yields_probe (h : s.IsWeighed b reg) {r : WorkerRecord} (hr : Files reg id r) :
    (m.probe id r s).Yields (State.elapsing b) fun _ t => t.Weighed b := by
  have hstable := stable_isWeighed hb reg
  refine Operation.yields_bind (hstable.keeps_resolve r s h) (fun n t ht => ?_)
    fun _ _ ht => ⟨reg, ht⟩
  refine Operation.yields_bind (hstable.keeps_note (fun _ => rfl) t ht) (fun _ u hu => ?_)
    fun _ _ hu => ⟨reg, hu⟩
  exact Operation.yields_bind ((hstable.keeps_call n _).attempt u hu)
    (fun outcome _ hv => yields_conclude hb hm hv hr n outcome) fun _ _ hv => ⟨reg, hv⟩

/-- Judging a worker leaves the weights as they should be. -/
lemma keeps_judge (now : Timestamp) (id : String) :
    Operation.Keeps (State.elapsing b) (State.Weighed b) (m.judge now id) := by
  rintro s ⟨reg, h⟩
  refine Operation.yields_bind (yields_find? hb hm h id) (fun r t ht => ?_)
    fun _ _ ht => ⟨reg, ht.1⟩
  obtain ⟨ht, hfiles⟩ := ht
  cases r with
  | none => exact ⟨reg, ht⟩
  | some r =>
    dsimp only
    split
    · exact ((keeps_evict hb hm id _).bind fun _ => Operation.keeps_pure _) t ⟨reg, ht⟩
    split
    · exact yields_probe hb hm ht (hfiles r rfl)
    · exact ⟨reg, ht⟩

/-- So does judging all of them. -/
lemma keeps_judgeAll (now : Timestamp) (report : SweepReport) (ids : List String) :
    Operation.Keeps (State.elapsing b) (State.Weighed b) (m.judgeAll now report ids) := by
  induction ids generalizing report with
  | nil => exact Operation.keeps_pure _
  | cons id ids ih => exact (keeps_judge hb hm now id).attempt.bind fun verdict => ih _

/-- Only workers that are not there are forgotten. -/
lemma keeps_prune : Operation.Keeps (State.elapsing b) (State.Weighed b) m.prune := by
  rintro s ⟨reg, h⟩
  show ((query m.workers.ids >>= _) s).Yields _ _
  rcases hids : m.workers.ids s.world with ⟨e | ids, w⟩
  · rw [State.query_bind_error hids]
    exact ⟨reg, (h.read hb hm .ids rfl (perform_ids hids)).1⟩
  rw [State.query_bind_ok hids]
  obtain ⟨hread, hanswers, hclock⟩ := h.read hb hm .ids rfl (perform_ids hids)
  obtain ⟨ids', hsame, -, hmem⟩ := hanswers
  obtain rfl : ids = ids' := by simpa [Except.map] using hsame
  have hgone : ∀ gone : List String, (∀ id ∈ gone, id ∉ ids) → ∀ t : State Site,
      t.IsWeighed b reg → t.world.clock = s.world.clock →
        (gone.foldl State.forget t).IsWeighed b reg := by
    intro gone
    induction gone with
    | nil => exact fun _ _ ht _ => ht
    | cons id gone ih =>
      intro hnone t ht htime
      refine ih (fun id' hid' => hnone id' (List.mem_cons_of_mem _ hid')) _ (ht.forget ?_) htime
      have habsent := fun hlive => hnone id (List.mem_cons_self ..) ((hmem id).mpr hlive)
      rw [htime]
      exact Option.not_isSome_iff_eq_none.mp habsent
  refine ⟨reg, hgone _ (fun id hid => ?_) _ hread hclock⟩
  simpa using (List.mem_filter.mp hid).2

/-- **A sweep that nothing overlaps with changes no weight of a worker that is there.** -/
lemma keeps_sweep : Operation.Keeps (State.elapsing b) (State.Weighed b) m.sweep :=
  (keeps_ids hb hm).bind fun ids => (Operation.keeps_read _).bind fun now =>
    (keeps_judgeAll hb hm now {} ids).bind fun report =>
      (keeps_prune hb hm).attempt.bind fun _ => Operation.keeps_pure report

omit hb in
/-- At the end the store leaves no more workers than there were, so nothing is wrong about the
weights. -/
lemma keeps_close : Operation.Keeps (State.elapsing b) (State.Weighed b) m.close := by
  rintro s ⟨reg, h⟩
  obtain ⟨reg', hstored, hclock, hlive⟩ := h.stored.close
  have hworld : (m.close s).Yields (State.elapsing b) fun _ t =>
      t = { s with evictionLoop := none, world := (b.store.close s.world).2 } := by
    rw [← hm]
    rfl
  refine hworld.mono fun _ t ht => ⟨reg', ?_⟩
  subst ht
  exact h.transfer hstored rfl Iff.rfl (fun _ => Iff.rfl) fun id l hl =>
    ⟨l, hlive _ id l (by rwa [show State.world _ = _ from rfl, hclock] at hl), rfl⟩

end Operations

end Manager

/-! ## The scheduler -/

namespace Scheduler

section Demands

variable {config : Config} {c : Scheduler Site} {s : State Site}
  (hb : config.registry.IsValid) (hc : c.stores = Site.stores config)

include hc

/-- A call about a task. -/
lemma keeps_task {α : Type} {q : Query Site α} (call : TaskCall)
    (hq : ∀ w, (q w).2 = (call.perform c.stores.tasks w).2) :
    Operation.Keeps (State.elapsing config.registry) (State.Weighed config.registry) (query q) := by
  rintro s ⟨reg, h⟩
  obtain ⟨hholds, hclock⟩ := Site.holds_tasks config call h.stored.holds
  have hworld : (query q s).Yields (State.elapsing config.registry) fun _ t =>
      t = { s with world := (call.perform (Site.stores config).tasks s.world).2 } := by
    rw [← hc, ← hq]
    rfl
  refine hworld.mono fun _ t ht => ⟨reg, ?_⟩
  subst ht
  refine h.transfer ⟨hholds, ?_, ?_⟩ rfl Iff.rfl (fun _ => Iff.rfl) fun id l hl =>
    ⟨l, by rwa [show State.world _ = _ from rfl, hclock] at hl, rfl⟩
  · rw [show State.world _ = _ from rfl, hclock]
    exact h.stored.keyed
  · rw [show State.world _ = _ from rfl, hclock]
    exact h.stored.deadline

/-- Adding a task is about the tasks only. -/
lemma keeps_add (t : Task) : Operation.Keeps (State.elapsing config.registry)
    (State.Weighed config.registry) (query (c.stores.tasks.add t)) :=
  keeps_task hc (.add t) fun w => by rw [TaskCall.perform, Query.map_apply]

/-- So is a look for a task. -/
lemma keeps_getTask (id : String) : Operation.Keeps (State.elapsing config.registry)
    (State.Weighed config.registry) (query (c.stores.tasks.get id)) :=
  keeps_task hc (.get id) fun w => by rw [TaskCall.perform, Query.map_apply]

/-- So is an update. -/
lemma keeps_update (t : Task) : Operation.Keeps (State.elapsing config.registry)
    (State.Weighed config.registry) (query (c.stores.tasks.update t)) :=
  keeps_task hc (.update t) fun w => by rw [TaskCall.perform, Query.map_apply]

/-- So is the removal of a task. -/
lemma keeps_removeTask (id : String) : Operation.Keeps (State.elapsing config.registry)
    (State.Weighed config.registry) (query (c.stores.tasks.remove id)) :=
  keeps_task hc (.remove id) fun w => by rw [TaskCall.perform, Query.map_apply]

include hb

/-- A task that is handed over leaves the weights as they should be. -/
lemma keeps_execute (t : Task) : Operation.Keeps (State.elapsing config.registry)
    (State.Weighed config.registry) (c.execute t) := by
  have hstable := Manager.stable_weighed hb
  refine (Manager.keeps_selectWorker hb (workers_manager hc)).bind fun choice => ?_
  cases choice with
  | none => exact Operation.keeps_fail _
  | some n =>
    exact (hstable.keeps_call n _).bind fun assigned => (hstable.keeps_note fun _ => rfl).bind
      fun _ => Operation.keeps_pure assigned

/-- So does a question to a worker. -/
lemma keeps_remoteStatus (remoteId workerId : String) :
    Operation.Keeps (State.elapsing config.registry) (State.Weighed config.registry)
      (c.remoteStatus remoteId workerId) := by
  have hstable := Manager.stable_weighed hb
  exact (Manager.keeps_getWorker hb (workers_manager hc) workerId).bind fun n =>
    (hstable.keeps_call n _).bind fun report => (hstable.keeps_note fun _ => rfl).bind fun _ =>
      Operation.keeps_pure report

/-- A submission leaves the weights as they should be, whatever comes of it. -/
lemma keeps_schedule (t : Task) : Operation.Keeps (State.elapsing config.registry)
    (State.Weighed config.registry) (c.schedule t) := by
  have hstable := Manager.stable_weighed hb
  refine (keeps_add hc t).bind fun _ => (keeps_execute hb hc t).attempt.bind fun r => ?_
  cases r with
  | ok assigned =>
    exact (keeps_update hc assigned).bind fun _ => (hstable.keeps_count _).bind fun _ =>
      Operation.keeps_pure assigned
  | error e =>
    refine (hstable.keeps_count _).bind fun _ => Operation.Keeps.bind ?_ fun _ =>
      Operation.keeps_fail e
    unfold rollBack
    split
    · exact (keeps_removeTask hc t.id).attempt.bind fun _ => Operation.keeps_pure ()
    · exact Operation.keeps_pure ()

/-- So does an inquiry about a task. -/
lemma keeps_status (id : String) : Operation.Keeps (State.elapsing config.registry)
    (State.Weighed config.registry) (c.status id) := by
  refine (keeps_getTask hc id).bind fun t => ?_
  cases t.assignment with
  | none => exact Operation.keeps_pure _
  | some a =>
    refine (keeps_remoteStatus hb hc a.remoteId a.workerId).bind fun report => ?_
    dsimp only
    split
    · exact (keeps_removeTask hc id).bind fun _ => Operation.keeps_pure _
    · exact Operation.keeps_pure _

/-- **Every demand keeps the balancer told**, if nothing overlaps with it.

**Proof sketch.** A demand is one of the operations, whose result is dropped; each of them keeps the
balancer told, as was shown for it. Closing the stores at a stop leaves the workers as they are. -/
theorem Demand.keeps_weighed (d : Demand) (hd : d.isSized = true)
    (hs : s.Weighed config.registry) (hpool : s.pool.IsKeyed) :
    (d.run c s).Yields (State.elapsing config.registry) fun _ t => t.Weighed config.registry := by
  have hm := workers_manager hc
  have hdiscard : ∀ {α : Type} {x : Operation (State Site) α},
      Operation.Keeps (State.elapsing config.registry) (State.Weighed config.registry) x →
      ((x >>= fun _ => pure ()) s).Yields (State.elapsing config.registry)
        fun _ t => t.Weighed config.registry :=
    fun hx => (hx.bind fun _ => Operation.keeps_pure ()) s hs
  cases d with
  | submit t => exact hdiscard (keeps_schedule hb hc t)
  | poll id => exact hdiscard (keeps_status hb hc id)
  | stop =>
    refine ((Manager.keeps_close hm).bind fun _ => ?_) s hs
    rintro u ⟨reg, h⟩
    have hworld : (query c.stores.tasks.close u).Yields (State.elapsing config.registry)
        fun _ t => t = u := by
      show { u with world := (c.stores.tasks.close u.world).2 } = u
      rw [hc, Site.close_tasks]
    exact hworld.mono fun _ t ht => ht ▸ ⟨reg, h⟩
  | manage a =>
    cases a with
    | register q => exact hdiscard (Manager.keeps_addWorker hb hm (of_decide_eq_true hd))
    | deregister id => exact Manager.keeps_removeWorker hb hm id s hs
    | heartbeat id =>
      exact Operation.yields_bind (Manager.yields_heartbeat hb hm hs hpool id)
        (fun _ _ ht => ht) fun _ _ ht => ht
    | select => exact hdiscard (Manager.keeps_selectWorker hb hm)
    | find id => exact hdiscard (Manager.keeps_getWorker hb hm id)
    | list => exact hdiscard (Manager.keeps_listWorkers hb hm)
    | sweep => exact hdiscard (Manager.keeps_sweep hb hm)
    | execute t => exact hdiscard (keeps_execute hb hc t)
    | ask remoteId workerId => exact hdiscard (keeps_remoteStatus hb hc remoteId workerId)

end Demands

end Scheduler

section Weights

variable {config : Config} {c : Scheduler Site} {s u : State Site} {n : Configuration (State Site)}
  {counter : UInt64}

/-- **The weights that the balancer applies** when a worker is selected, if operations do not
overlap and the stores do not fail: every listed worker has a record that can be read; the weight is
the one in this record if the worker has registered or given a sign of life since the process was
started, and 1 if it has not.

**Proof sketch.** What the balancer has been told agrees with the records of those that it has been
told about: a registration and a sign of life write a weight and tell it, a sweep writes back what
it has read, which is still there if anything is, and only workers that are not there are
forgotten. -/
theorem weights_applied (hb : config.registry.IsValid) (hc : c.stores = Site.stores config)
    (hs : config.registry.IsGood s.world) (hpool : s.pool = .empty) (hjournal : s.journal = [])
    (hbalancer : s.balancer = .weighted counter .empty)
    (h : c.Serial (Site.Later config.registry.lease) s n) (hn : n.waiting = [])
    (hu : u = n.state ∨ ∃ t, query (c.stores.tasks.add t) n.state = .finished (.ok ()) u) :
    ∃ ids w, c.stores.workers.ids u.world = (.ok ids, w) ∧
      (ids ≠ [] → c.manager.selected? u = (Balancer.turns u.balancer.weight ids)[
        u.balancer.counter.toNat % (Balancer.turns u.balancer.weight ids).length]?) ∧
      ∀ id ∈ ids, ∃ r w', c.stores.workers.get id w = (.ok r, w') ∧ r.id = id ∧
        (u.IsTold id → u.balancer.weight id = max r.weight 1) ∧
        (¬ u.IsTold id → u.balancer.weight id = 1) := by
  have hstart := Manager.State.weighed_of_fresh hs hjournal hbalancer
  have hweighed : n.state.Weighed config.registry := by
    refine Configuration.Serial.keeps (fun t v htv ht => ?_) (fun n' hn' _ hinv x hx => ?_) h hstart
      hn
    · exact (Manager.stable_weighed hb).later htv ht
    · obtain ⟨d, hd, rfl⟩ := hx
      exact d.keeps_weighed hb hc hd hinv (Scheduler.Serial.isKeyed hn' hpool)
  have hm := Scheduler.workers_manager hc
  obtain ⟨⟨reg, hu⟩, hupool⟩ : u.Weighed config.registry ∧ u.pool.IsKeyed := by
    have hnpool := Scheduler.Serial.isKeyed h hpool
    obtain rfl | ⟨t, hwritten⟩ := hu
    · exact ⟨hweighed, hnpool⟩
    · have hkept := Scheduler.keeps_add hc t n.state hweighed
      rw [hwritten] at hkept
      exact ⟨hkept, (Act.finished.inj hwritten).2 ▸ hnpool⟩
  obtain ⟨ids, w, hids, hrecords⟩ := hu.listed hb hm
  refine ⟨ids, w, hids, fun hne => ?_, fun id hid => ?_⟩
  · refine (Manager.selected?_of_listed hupool hids hne fun id hid => ?_).1
    obtain ⟨l, w', hget, hl⟩ := hrecords id hid
    exact ⟨l.record, w', hget, (hu.stored.keyed id l hl).1⟩
  · obtain ⟨l, w', hget, hl⟩ := hrecords id hid
    exact ⟨l.record, w', hget, (hu.stored.keyed id l hl).1, fun htold => hu.told id l hl htold,
      fun htold => hu.untold id htold⟩

end Weights

/-! ### Two workers whose records were there before -/

namespace Scheduler

/-- A configuration with the workers in Redis and a balancer that heeds weights. -/
def durable : Config where
  scheduler := { loadBalancer := "wrr" }
  workerStore := { backend := .redis }

/-- A scheduler for this configuration. -/
def lasting : Scheduler Site := ⟨Site.stores durable, strict.settings, false⟩

/-- The state in which nothing has happened yet, but the records of two workers are in Redis. -/
def inherited : State Site where
  world := (lasting.stores.workers.add ⟨"b", "b:1", .epoch, 2⟩
    (lasting.stores.workers.add ⟨"a", "a:1", .epoch, 3⟩ initial.world).2).2
  balancer := .weighted 0 .empty

/-- The leases of the example last, and are not too long for Redis. -/
lemma isValid_durable : durable.registry.IsValid := by
  show (_ : Nat) < _
  decide +kernel

/-- The records of the example are under their own ids.

**Proof sketch.** A server without keys holds the empty registry, and each of the two registrations
leads from one good site to another. -/
lemma isGood_inherited : durable.registry.IsGood inherited.world := by
  have hkept : ∀ r : WorkerRecord, r.weight < Dialect.bound32 → ∀ w,
      durable.registry.IsGood w → durable.registry.IsGood (lasting.stores.workers.add r w).2 := by
    intro r hr w hw
    have hgood := (WorkerBackend.keepsIds isValid_durable).kept (.add r) (decide_eq_true hr) hw
    rw [WorkerCall.perform, Query.map_apply, ← Site.workers_stores] at hgood
    exact hgood
  refine hkept _ (by decide) _ (hkept _ (by decide) _ ⟨.empty, ?_, Registry.isKeyed_empty _ _, ?_⟩)
  · exact WorkerBackend.holds_empty (b := durable.registry) ⟨⟨rfl, rfl⟩, rfl, fun _ => rfl⟩
  · decide +kernel

/-- An action alone, from the state in which nothing has happened yet. -/
def alone (a : Action) : Configuration (State Site) :=
  (⟨inherited, []⟩ : Configuration (State Site)).start ((Demand.manage a).run lasting)

/-- One action alone overlaps with nothing. -/
lemma serial_alone (a : Action) (ha : (Demand.manage a).isSized = true) :
    lasting.Serial (Site.Later durable.registry.lease) inherited (alone a) :=
  .start .refl rfl ⟨.manage a, ha, rfl⟩

end Scheduler

/-- The weight in a record is not applied to a worker that has neither registered nor given a sign
of life since the process was started: the second turn is not for the first worker, although it has
a weight of 3. -/
theorem weight_of_inherited :
    let u := (Scheduler.alone .select).state
    Scheduler.durable.registry.IsGood Scheduler.inherited.world ∧
      Scheduler.lasting.Serial (Site.Later Scheduler.durable.registry.lease) Scheduler.inherited
        (Scheduler.alone .select) ∧
      (Scheduler.alone .select).waiting = [] ∧
      (∃ w, Scheduler.lasting.stores.workers.ids u.world = (.ok ["a", "b"], w) ∧
        (Scheduler.lasting.stores.workers.get "a" w).1 = .ok ⟨"a", "a:1", .epoch, 3⟩) ∧
      u.balancer.weight "a" ≠ max 3 1 ∧ Scheduler.lasting.manager.selected? u = some "b" :=
  ⟨Scheduler.isGood_inherited, Scheduler.serial_alone .select rfl, by decide +kernel,
    ⟨_, Prod.ext (by decide +kernel) rfl, by decide +kernel⟩, by decide +kernel, by decide +kernel⟩

/-- Of two workers whose records were there before, the one that has given a sign of life has the
weight in its record, and the other has a weight of 1. -/
theorem weights_applied_heard :
    let u := (Scheduler.alone (.heartbeat "a")).state
    Scheduler.durable.registry.IsGood Scheduler.inherited.world ∧
      Scheduler.lasting.Serial (Site.Later Scheduler.durable.registry.lease) Scheduler.inherited
        (Scheduler.alone (.heartbeat "a")) ∧
      (Scheduler.alone (.heartbeat "a")).waiting = [] ∧ u.IsTold "a" ∧ ¬ u.IsTold "b" ∧
      ∃ r, (Scheduler.lasting.stores.workers.get "a"
          (Scheduler.lasting.stores.workers.ids u.world).2).1 = .ok r ∧
        r.weight = 3 ∧ u.balancer.weight "a" = max r.weight 1 ∧ u.balancer.weight "b" = 1 := by
  intro u
  have hserial := Scheduler.serial_alone (.heartbeat "a") rfl
  have hnone : (Scheduler.alone (.heartbeat "a")).waiting = [] := by decide +kernel
  have htold : u.IsTold "a" := by
    show ∃ n ∈ (Scheduler.alone (.heartbeat "a")).state.journal, n.told? = some "a"
    decide +kernel
  have huntold : ¬ u.IsTold "b" := by
    show ¬ ∃ n ∈ (Scheduler.alone (.heartbeat "a")).state.journal, n.told? = some "b"
    decide +kernel
  obtain ⟨ids, w, hids, -, hmembers⟩ := weights_applied Scheduler.isValid_durable
    (show Scheduler.lasting.stores = Site.stores Scheduler.durable from rfl)
    Scheduler.isGood_inherited rfl rfl rfl hserial hnone (.inl rfl)
  obtain rfl : ids = ["a", "b"] := by
    have hthere : (Scheduler.lasting.stores.workers.ids u.world).1 = .ok ["a", "b"] := by
      decide +kernel
    rw [hids] at hthere
    exact Except.ok.inj hthere
  obtain ⟨r, w', hget, -, happlied, -⟩ := hmembers "a" (by simp)
  obtain ⟨-, -, -, -, -, huntouched⟩ := hmembers "b" (by simp)
  refine ⟨Scheduler.isGood_inherited, hserial, hnone, htold, huntold, r, by rw [hids, hget], ?_,
    happlied htold, huntouched huntold⟩
  have hweight : ((Scheduler.lasting.stores.workers.get "a"
      (Scheduler.lasting.stores.workers.ids u.world).2).1.map WorkerRecord.weight) = .ok 3 := by
    decide +kernel
  rw [hids, hget] at hweight
  exact Except.ok.inj hweight

end ConversionScheduler
