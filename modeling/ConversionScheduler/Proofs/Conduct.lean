import ConversionScheduler.Proofs.Moves
/-!
# Every operation makes moves

Each operation of the manager, and each request to a worker, is followed through to its end: between
its start, its pauses and its end it does what one move or several moves do.

## Main definitions

* `Scheduler.Action` — what a scheduler is asked to do with its workers.
* `Scheduler.Reaches` — what can come of any number of actions that take turns.
* `Scheduler.strict`, `Scheduler.initial`, `Scheduler.swept`, `Scheduler.moved` — a small system,
  for examples.

## Main results

* `Manager.State.follows_call` — a request to a worker, and what follows its outcome.
* `Scheduler.Action.follows` — every action makes moves.
* `Scheduler.Reaches.leads` — nothing but moves is ever made.
-/

namespace ConversionScheduler

namespace Manager

open State (query resolve change observe note call)

variable {ω α β : Type} {m : Manager ω} {idle : ω → ω → Prop} {s : State ω}

/-! ## The steps of an operation -/

namespace State

/-- A call of a store changes the world and ends at once. -/
lemma query_eq {q : Query ω α} {r : Except Failure α} {w : ω} (h : q s.world = (r, w)) :
    query q s = .finished r { s with world := w } := by
  rw [query, Operation.step, h]

/-- What follows a call that succeeds. -/
lemma query_bind_ok {q : Query ω α} {a : α} {w : ω} (h : q s.world = (.ok a, w))
    (f : α → Operation (State ω) β) : (query q >>= f) s = f a { s with world := w } := by
  rw [Operation.bind_apply, query_eq h]
  rfl

/-- Nothing follows a call that fails. -/
lemma query_bind_error {q : Query ω α} {e : Failure} {w : ω} (h : q s.world = (.error e, w))
    (f : α → Operation (State ω) β) :
    (query q >>= f) s = .finished (.error e) { s with world := w } := by
  rw [Operation.bind_apply, query_eq h]
  rfl

/-- A request to a worker, and what follows its outcome. While the request is on its way the others
make moves. -/
lemma follows_call {c : Proxy → Call α} {n : Nat} {p : β → State ω → Prop}
    {f : Except Failure α → State ω → Act (State ω) β}
    (h : ∀ body t, (conduct m idle).leads s t →
      (f (((c (s.pool.proxy n)).finish body (t.pool.proxy n)).1.mapError .reported)
        { t with pool := t.pool.change n fun _ =>
          ((c (s.pool.proxy n)).finish body (t.pool.proxy n)).2 }).Follows (conduct m idle) p t) :
    ((call n c s).andThen f).Follows (conduct m idle) p s := by
  unfold State.call Call.run
  cases (c (s.pool.proxy n)).request with
  | error fault => exact h (.error (.transport fault)) s ((conduct m idle).refl s)
  | ok r => exact ⟨(conduct m idle).refl s, fun o t ht => h (Proxy.answer r.url o) t ht⟩

end State

/-- A registration, as one of the calls of a store. -/
lemma perform_add {r : WorkerRecord} {a : Except Failure Unit} {w w' : ω}
    (h : m.workers.add r w = (a, w')) :
    (WorkerCall.add r).perform m.workers w = (a.map fun _ => .nothing, w') := by
  rw [WorkerCall.perform, Query.map_apply, h]

/-- A removal, as one of the calls. -/
lemma perform_remove {id : String} {a : Except Failure Unit} {w w' : ω}
    (h : m.workers.remove id w = (a, w')) :
    (WorkerCall.remove id).perform m.workers w = (a.map fun _ => .nothing, w') := by
  rw [WorkerCall.perform, Query.map_apply, h]

/-- A look for a record, as one of the calls. -/
lemma perform_get {id : String} {a : Except Failure WorkerRecord} {w w' : ω}
    (h : m.workers.get id w = (a, w')) :
    (WorkerCall.get id).perform m.workers w = (a.map .record, w') := by
  rw [WorkerCall.perform, Query.map_apply, h]

/-- A listing, as one of the calls. -/
lemma perform_ids {a : Except Failure (List String)} {w w' : ω} (h : m.workers.ids w = (a, w')) :
    WorkerCall.ids.perform m.workers w = (a.map .ids, w') := by
  rw [WorkerCall.perform, Query.map_apply, h]

/-- A sign of life, as one of the calls. -/
lemma perform_heartbeat {r : WorkerRecord} {a : Except Failure WorkerRecord} {w w' : ω}
    (h : m.workers.heartbeat r w = (a, w')) :
    (WorkerCall.heartbeat r).perform m.workers w = (a.map .record, w') := by
  rw [WorkerCall.perform, Query.map_apply, h]

/-- One move is a way of making moves. -/
lemma leads_of_move {t : State ω} (h : Move m idle s.ledger t.ledger) :
    (conduct m idle).leads s t :=
  Relation.ReflTransGen.single h

/-! ## Membership -/

/-- A registration is refused, or goes unheard, or is made: one move, by which of its two calls
fails, if one does. -/
lemma follows_addWorker {q : Registration} (hq : q.weight < Dialect.bound32) :
    (m.addWorker q s).Follows (conduct m idle) (fun _ _ => True) s := by
  have hsized := weight_ofRegistration_lt (m.now s.world) hq
  obtain ⟨record, hrecord⟩ : ∃ r, r = WorkerRecord.ofRegistration q (m.now s.world) := ⟨_, rfl⟩
  rw [← hrecord] at hsized
  show ((query (m.workers.add (.ofRegistration q (m.now s.world))) >>= _) s).Follows _ _ s
  rw [← hrecord]
  rcases hadd : m.workers.add record s.world with ⟨e | ⟨⟩, w₁⟩
  · rw [State.query_bind_error hadd]
    exact ⟨leads_of_move (.refused (.add record) (decide_eq_true hsized)
      (perform_add hadd)), trivial⟩
  · rw [State.query_bind_ok hadd]
    rcases hheard : m.workers.heartbeat record w₁ with ⟨e | r, w₂⟩
    · rw [State.query_bind_error hheard]
      rw [hrecord] at hadd hheard
      exact ⟨leads_of_move (.unheard hq (perform_add hadd) (perform_heartbeat hheard)), trivial⟩
    · rw [State.query_bind_ok hheard]
      rw [hrecord] at hadd hheard
      exact ⟨leads_of_move (.registered hq (perform_add hadd) (perform_heartbeat hheard)), trivial⟩

/-- A sign of life is refused, or goes unnoticed, or is heard. -/
lemma follows_heartbeat (id : String) :
    (m.heartbeat id s).Follows (conduct m idle) (fun _ _ => True) s := by
  show ((query (m.workers.get id) >>= _) s).Follows _ _ s
  rcases hget : m.workers.get id s.world with ⟨e | r₀, w₁⟩
  · rw [State.query_bind_error hget]
    exact ⟨leads_of_move (.refused (.get id) rfl (perform_get hget)), trivial⟩
  · rw [State.query_bind_ok hget]
    rcases hheard : m.workers.heartbeat r₀ w₁ with ⟨e | r, w₂⟩
    · rw [State.query_bind_error hheard]
      exact ⟨leads_of_move (.unnoticed (perform_get hget) (perform_heartbeat hheard)), trivial⟩
    · rw [State.query_bind_ok hheard]
      exact ⟨leads_of_move (.heard (perform_get hget) (perform_heartbeat hheard)), trivial⟩

/-- A removal is refused or made. -/
lemma follows_removeWorker (id : String) :
    (m.removeWorker id s).Follows (conduct m idle) (fun _ _ => True) s := by
  show ((m.withdraw id s).andThen _).Follows _ _ s
  show (((query (m.workers.remove id) >>= _) s).andThen _).Follows _ _ s
  rcases hremove : m.workers.remove id s.world with ⟨e | ⟨⟩, w⟩
  · rw [State.query_bind_error hremove]
    exact ⟨leads_of_move (.refused (.remove id) rfl (perform_remove hremove)), trivial⟩
  · rw [State.query_bind_ok hremove]
    exact ⟨leads_of_move (.removed (perform_remove hremove)), trivial⟩

/-! ## Access -/

/-- A record is read and is there, or it is not there, or it cannot be read. -/
lemma find?_cases (m : Manager ω) (id : String) (s : State ω) :
    (∃ r w, m.workers.get id s.world = (.ok r, w) ∧
        m.find? id s = .finished (.ok (some r)) { s with world := w }) ∨
      (∃ e w, m.workers.get id s.world = (.error e, w) ∧
        (m.find? id s = .finished (.ok none) { s with world := w } ∨
          ∃ e', m.find? id s = .finished (.error e') { s with world := w })) := by
  unfold find?
  rcases hget : m.workers.get id s.world with ⟨e | r, w⟩
  · refine .inr ⟨e, w, rfl, ?_⟩
    show Act.andThen (Act.andThen (query _ s) _) _ = _ ∨
      ∃ e', Act.andThen (Act.andThen (query _ s) _) _ = _
    rw [State.query_eq hget]
    cases e with
    | crashed => exact .inr ⟨_, rfl⟩
    | reported e =>
      cases e with
      | workerNotFound id' => exact .inl rfl
      | _ => exact .inr ⟨_, rfl⟩
  · refine .inl ⟨r, w, rfl, ?_⟩
    show Act.andThen (Act.andThen (query _ s) _) _ = _
    rw [State.query_eq hget]
    rfl

/-- Reading a record is a move. -/
lemma leads_looked (id : String) {r : Except Failure WorkerRecord} {w : ω}
    (h : m.workers.get id s.world = (r, w)) :
    (conduct m idle).leads s { s with world := w } := by
  have hworld : ((WorkerCall.get id).perform m.workers s.world).2 = w := by rw [perform_get h]
  rw [← hworld]
  exact leads_of_move (.looked (.get id) rfl)

/-- Getting a record and then its proxy. -/
lemma leads_resolved {id : String} {r : WorkerRecord} {w : ω}
    (hget : m.workers.get id s.world = (.ok r, w)) :
    (conduct m idle).leads s { s with world := w, pool := (s.pool.resolve r).2 } := by
  have hresolved : (conduct m idle).leads { s with world := w }
      { s with world := w, pool := (s.pool.resolve r).2 } := leads_of_move (.resolved r)
  exact (conduct m idle).trans (leads_looked id hget) hresolved

/-- The number that an operation may give is that of a proxy. -/
def IsMade (r : Except Failure (Option Nat)) (s : State ω) : Prop :=
  ∀ n, r = .ok (some n) → n < s.pool.made.length

/-- A selection reads records until one is there, and gives the number of its proxy.

**Proof sketch.** Induction on the rounds. A round moves the turn of the balancer and reads one
record; the selection ends if it is there or cannot be read, and goes on without its id otherwise. A
proxy that is made has a number below those made later. -/
lemma follows_selectFrom (rounds : Nat) (ids : List String) (h : s.pool.IsKeyed) :
    (m.selectFrom rounds ids s).Follows (conduct m idle) IsMade s := by
  induction rounds generalizing ids s with
  | zero => exact ⟨.refl, fun n hn => by cases hn⟩
  | succ rounds ih =>
    rw [selectFrom, Operation.bind_apply]
    rcases hselect : s.balancer.select ids with ⟨choice, balancer⟩
    simp only [Operation.step, hselect, Act.andThen]
    cases choice with
    | none => exact ⟨.refl, fun n hn => by cases hn⟩
    | some id =>
      -- only the turn of the balancer has moved so far
      obtain ⟨t, ht⟩ : ∃ t, t = { s with balancer := balancer } := ⟨_, rfl⟩
      have hlead : (conduct m idle).leads s t := by
        rw [ht]
        exact .refl
      have hkeyed : t.pool.IsKeyed := isKeyed_of_leads hlead h
      rw [← ht]
      refine Act.Follows.earlier ?_ hlead
      show ((m.find? id >>= _) t).Follows _ _ t
      rw [Operation.bind_apply]
      obtain ⟨r, w, hget, hfind⟩ | ⟨e, w, hget, hfind | ⟨e', hfind⟩⟩ := find?_cases m id t
      · rw [hfind]
        refine ⟨leads_resolved hget, fun n hn => ?_⟩
        obtain rfl := Option.some.inj (Except.ok.inj hn)
        exact (Pool.contact_resolve hkeyed r).1
      · rw [hfind]
        exact (ih (s := { t with world := w }) _ hkeyed).earlier (leads_looked id hget)
      · rw [hfind]
        exact ⟨leads_looked id hget, fun n hn => by cases hn⟩

/-- Listing the ids is a move. -/
lemma leads_listed {a : Except Failure (List String)} {w : ω} (h : m.workers.ids s.world = (a, w)) :
    (conduct m idle).leads s { s with world := w } := by
  have hworld : (WorkerCall.ids.perform m.workers s.world).2 = w := by rw [perform_ids h]
  rw [← hworld]
  exact leads_of_move (.looked .ids rfl)

/-- A selection lists the ids and then reads records. -/
lemma follows_selectWorker (h : s.pool.IsKeyed) :
    (m.selectWorker s).Follows (conduct m idle) IsMade s := by
  show ((query m.workers.ids >>= _) s).Follows _ _ s
  rcases hids : m.workers.ids s.world with ⟨e | ids, w⟩
  · rw [State.query_bind_error hids]
    exact ⟨leads_listed hids, fun n hn => by cases hn⟩
  · rw [State.query_bind_ok hids]
    exact (follows_selectFrom (s := { s with world := w }) _ _ h).earlier (leads_listed hids)

/-- A look for a worker reads its record and gives the number of its proxy. -/
lemma follows_getWorker (id : String) (h : s.pool.IsKeyed) :
    (m.getWorker id s).Follows (conduct m idle)
      (fun r t => ∀ n, r = .ok n → n < t.pool.made.length) s := by
  show ((query (m.workers.get id) >>= _) s).Follows _ _ s
  rcases hget : m.workers.get id s.world with ⟨e | r, w⟩
  · rw [State.query_bind_error hget]
    exact ⟨leads_looked id hget, fun n hn => by cases hn⟩
  · rw [State.query_bind_ok hget]
    refine ⟨leads_resolved hget, fun n hn => ?_⟩
    obtain rfl := Except.ok.inj hn
    exact (Pool.contact_resolve h r).1

/-- What is told about workers takes one reading for each. -/
lemma follows_summaries (ids : List String) (h : s.pool.IsKeyed) :
    (m.summaries ids s).Follows (conduct m idle) (fun _ _ => True) s := by
  induction ids generalizing s with
  | nil => exact ⟨.refl, trivial⟩
  | cons id ids ih =>
    rw [summaries, Operation.bind_apply]
    obtain ⟨r, w, hget, hfind⟩ | ⟨e, w, hget, hfind | ⟨e', hfind⟩⟩ := find?_cases m id s
    · rw [hfind]
      refine Act.Follows.earlier ?_ (leads_resolved hget)
      show ((m.summaries ids >>= _)
        { s with world := w, pool := (s.pool.resolve r).2 }).Follows _ _ _
      exact Operation.follows_bind (ih (h.resolve r))
        (fun _ _ _ _ => ⟨.refl, trivial⟩) fun _ _ _ => trivial
    · rw [hfind]
      exact (ih (s := { s with world := w }) h).earlier (leads_looked id hget)
    · rw [hfind]
      exact ⟨leads_looked id hget, trivial⟩

/-- A list of the workers takes a listing and one reading for each. -/
lemma follows_listWorkers (h : s.pool.IsKeyed) :
    (m.listWorkers s).Follows (conduct m idle) (fun _ _ => True) s := by
  show ((query m.workers.ids >>= _) s).Follows _ _ s
  rcases hids : m.workers.ids s.world with ⟨e | ids, w⟩
  · rw [State.query_bind_error hids]
    exact ⟨leads_listed hids, trivial⟩
  · rw [State.query_bind_ok hids]
    exact (follows_summaries (s := { s with world := w }) ids h).earlier (leads_listed hids)

/-! ## Sweeps -/

/-- An eviction that its cause justifies is refused or made. -/
lemma follows_evict (id : String) (cause : State ω → EvictionCause)
    (hcause : ∀ w balancer metrics, s.ledger.Justifies m id
      (cause { s with world := w, pool := s.pool.drop id, balancer, metrics })) :
    (m.evict id cause s).Follows (conduct m idle) (fun _ _ => True) s := by
  show ((m.withdraw id s).andThen _).Follows _ _ s
  show (((query (m.workers.remove id) >>= _) s).andThen _).Follows _ _ s
  rcases hremove : m.workers.remove id s.world with ⟨e | ⟨⟩, w⟩
  · rw [State.query_bind_error hremove]
    exact ⟨leads_of_move (.refused (.remove id) rfl (perform_remove hremove)), trivial⟩
  · rw [State.query_bind_ok hremove]
    exact ⟨leads_of_move (.evicted (hcause _ _ _) (perform_remove hremove)), trivial⟩

/-- A worker that was examined is renewed, or it is not. -/
lemma follows_renew {id : String} {r : WorkerRecord} {via : Contact}
    (h : .examined id r via ∈ s.journal) :
    (m.renew r s).Follows (conduct m idle) (fun _ _ => True) s := by
  rw [renew, Operation.bind_apply]
  show (((query (m.workers.heartbeat r) s).andThen _).andThen _).Follows _ _ s
  rcases hheard : m.workers.heartbeat r s.world with ⟨e | r', w⟩
  · rw [State.query_eq hheard]
    have hlead : (conduct m idle).leads s { s with world := w } :=
      leads_of_move (.unrenewed h (perform_heartbeat hheard))
    cases e with
    | crashed => exact ⟨hlead, trivial⟩
    | reported e =>
      cases e with
      | workerNotFound id' => exact ⟨hlead, trivial⟩
      | _ => exact ⟨hlead, trivial⟩
  · rw [State.query_eq hheard]
    exact ⟨leads_of_move (.renewed h (perform_heartbeat hheard)), trivial⟩

/-- A health check tells the proxy whether it was passed. -/
lemma finish_checkStatus (p q : Proxy) (body : Except CallFault (List UInt8)) :
    ∃ outcome, p.checkStatus.finish body q = (outcome, q.judged outcome.toOption) := by
  simp only [Proxy.checkStatus]
  cases Proxy.decoded WorkerStatus.read? body with
  | error fault => exact ⟨.error (.statusCheckFailure ⟨p.id, fault⟩), rfl⟩
  | ok status => exact ⟨.ok status, rfl⟩

section Health

variable {id : String} {r : WorkerRecord} {n : Nat}

/-- A health check has ended. -/
lemma leads_checked (status? : Option WorkerStatus) (hn : n < s.pool.made.length)
    (h : .examined id r (s.pool.contact n) ∈ s.journal) :
    (conduct m idle).leads s { s with
      pool := s.pool.change n (Proxy.judged status?)
      journal := .checked ((s.pool.change n (Proxy.judged status?)).contact n) status?.isSome ::
        s.journal } := by
  rw [(Pool.extends_change (Proxy.judged_name status?)).contact n hn]
  exact leads_of_move (.checked status? hn h)

/-- The proxy has taken notice of the outcome of a health check already; the rest follows.

**Proof sketch.** The outcome is noted first, with the state of the proxy that was judged. If the
check succeeded, the record is renewed; if it failed, the worker is removed just if the errors of
the proxy have come to the bound, which is the cause that the conduct asks of a removal. -/
lemma follows_conclude (status? : Option WorkerStatus) {outcome : Except Error WorkerStatus}
    (houtcome : outcome.toOption = status?) (hn : n < s.pool.made.length)
    (h : .examined id r (s.pool.contact n) ∈ s.journal) :
    (m.conclude id r n outcome { s with pool := s.pool.change n (Proxy.judged status?) }).Follows
      (conduct m idle) (fun _ _ => True) s := by
  obtain ⟨t, ht⟩ : ∃ t : State ω, t = { s with
    pool := s.pool.change n (Proxy.judged status?)
    journal := .checked ((s.pool.change n (Proxy.judged status?)).contact n) status?.isSome ::
      s.journal } := ⟨_, rfl⟩
  have hlead : (conduct m idle).leads s t := by
    rw [ht]
    exact leads_checked status? hn h
  have hexamined : .examined id r (t.pool.contact n) ∈ t.journal := by
    rw [(extends_of_leads hlead).contact n hn]
    exact (suffix_of_leads hlead).mem h
  refine Act.Follows.earlier ?_ hlead
  cases outcome with
  | ok status =>
    have hrun : m.conclude id r n (.ok status)
        { s with pool := s.pool.change n (Proxy.judged status?) } =
          (m.renew r >>= fun _ => pure .kept) t := by
      rw [ht, ← houtcome]
      rfl
    rw [hrun]
    exact Operation.follows_bind (follows_renew hexamined) (fun _ _ _ _ => ⟨.refl, trivial⟩)
      fun _ _ _ => trivial
  | error e =>
    obtain ⟨u, hu⟩ : ∃ u, u = { t with metrics := { t.metrics with
      healthCheckFailures := t.metrics.healthCheckFailures + 1 } } := ⟨_, rfl⟩
    have hrun : m.conclude id r n (.error e)
        { s with pool := s.pool.change n (Proxy.judged status?) } =
          (if m.settings.maxErrorCount ≤ (u.pool.proxy n).errorCount.toNat then
            m.evict id (fun s => .unhealthy (s.pool.contact n)) >>= fun _ =>
              pure Verdict.evictedUnhealthy
          else pure .kept) u := by
      rw [hu, ht, ← houtcome]
      rfl
    have hlead' : (conduct m idle).leads t u := by
      rw [hu]
      exact .refl
    rw [hrun]
    refine Act.Follows.earlier ?_ hlead'
    split
    · rename_i herrors
      have hevict : (m.evict id (fun s => .unhealthy (s.pool.contact n)) u).Follows
          (conduct m idle) (fun _ _ => True) u := by
        refine follows_evict id _ fun w balancer metrics => ?_
        rw [hu] at herrors ⊢
        exact ⟨r, hexamined, rfl, herrors⟩
      exact Operation.follows_bind hevict (fun _ _ _ _ => ⟨.refl, trivial⟩) fun _ _ _ => trivial
    · exact ⟨.refl, trivial⟩

/-- A health check is one move before the request, and one or two after the outcome.

**Proof sketch.** Before the pause the worker is examined through its proxy. The others make moves
while the request is on its way; they leave the proxy with its number and the note in the journal,
so that both are still there when the outcome is judged. -/
lemma follows_probe {w : ω} (h : s.pool.IsKeyed) (hget : m.workers.get id s.world = (.ok r, w)) :
    (m.probe id r { s with world := w }).Follows (conduct m idle) (fun _ _ => True) s := by
  obtain ⟨n, hn⟩ : ∃ n, n = (s.pool.resolve r).1 := ⟨_, rfl⟩
  obtain ⟨t, ht⟩ : ∃ t : State ω, t = { s with
    world := w
    pool := (s.pool.resolve r).2
    journal := .examined id r ((s.pool.resolve r).2.contact n) :: s.journal } := ⟨_, rfl⟩
  have hlead : (conduct m idle).leads s t := by
    rw [ht, hn]
    exact leads_of_move (.examined (perform_get hget))
  have hmade : n < t.pool.made.length := by
    rw [ht, hn]
    exact (Pool.contact_resolve h r).1
  have hexamined : .examined id r (t.pool.contact n) ∈ t.journal := by
    rw [ht]
    exact List.mem_cons_self ..
  have hrun : m.probe id r { s with world := w } =
      ((call n Proxy.checkStatus).attempt >>= m.conclude id r n) t := by
    rw [ht, hn]
    rfl
  refine Act.Follows.earlier ?_ hlead
  rw [hrun, Operation.bind_apply, Operation.attempt, Act.andThen_assoc]
  refine State.follows_call fun body u hu => ?_
  have hmade' : n < u.pool.made.length := Nat.lt_of_lt_of_le hmade (extends_of_leads hu).length
  have hexamined' : .examined id r (u.pool.contact n) ∈ u.journal := by
    rw [(extends_of_leads hu).contact n hmade]
    exact (suffix_of_leads hu).mem hexamined
  obtain ⟨outcome, hfinish⟩ := finish_checkStatus (t.pool.proxy n) (u.pool.proxy n) body
  rw [hfinish, Pool.change_const n (Proxy.judged outcome.toOption)]
  have hconclude : (m.conclude id r n outcome { u with
      pool := u.pool.change n (Proxy.judged outcome.toOption) }).Follows (conduct m idle)
      (fun _ _ => True) u := follows_conclude outcome.toOption rfl hmade' hexamined'
  cases outcome <;> exact hconclude

end Health

/-- A worker is judged by its record: it is gone, or it is stale, or it is asked how it is, or it is
left alone.

**Proof sketch.** Cases on the record read: none, a stale one, one whose worker is probed, one that
is kept. Each move is allowed by the conduct, the removals with their causes. -/
lemma follows_judge (now : Timestamp) (id : String) (h : s.pool.IsKeyed) :
    (m.judge now id s).Follows (conduct m idle) (fun _ _ => True) s := by
  rw [judge, Operation.bind_apply]
  obtain ⟨r, w, hget, hfind⟩ | ⟨e, w, hget, hfind | ⟨e', hfind⟩⟩ := find?_cases m id s
  · rw [hfind]
    show ((if r.isStale now m.settings.staleThreshold then
        m.evict id (fun _ => .stale) >>= fun _ => pure Verdict.evictedStale
      else if m.settings.healthCheckEnabled then m.probe id r
      else pure .kept) { s with world := w }).Follows _ _ s
    split
    · refine Act.Follows.earlier (t := { s with world := w }) ?_ (leads_looked id hget)
      exact Operation.follows_bind (follows_evict id _ fun _ _ _ => trivial)
        (fun _ _ _ _ => ⟨.refl, trivial⟩) fun _ _ _ => trivial
    · split
      · exact follows_probe h hget
      · exact ⟨leads_looked id hget, trivial⟩
  · rw [hfind]
    exact ⟨leads_looked id hget, trivial⟩
  · rw [hfind]
    exact ⟨leads_looked id hget, trivial⟩

/-- All workers are judged, one after the other. Those after a worker are judged even if its
judgement fails. -/
lemma follows_judgeAll (now : Timestamp) (report : SweepReport) (ids : List String)
    (h : s.pool.IsKeyed) :
    (m.judgeAll now report ids s).Follows (conduct m idle) (fun _ _ => True) s := by
  induction ids generalizing s report with
  | nil => exact ⟨.refl, trivial⟩
  | cons id ids ih =>
    rw [judgeAll]
    have hjudge : ((m.judge now id).attempt s).Follows (conduct m idle) (fun _ _ => True) s :=
      Operation.follows_attempt (follows_judge now id h) (fun _ _ _ => trivial)
        (fun _ _ _ => trivial) fun _ _ => trivial
    exact Operation.follows_bind hjudge (fun _ t ht _ => ih _ (isKeyed_of_leads ht h))
      fun _ _ _ => trivial

/-- Forgetting workers, one after the other. -/
lemma leads_forgotten (ids : List String) :
    (conduct m idle).leads s (ids.foldl State.forget s) := by
  induction ids generalizing s with
  | nil => exact .refl
  | cons id ids ih => exact (conduct m idle).trans (leads_of_move (.forgotten id)) ih

/-- The workers are listed once more, and those that are not in the list are forgotten. -/
lemma follows_prune : (m.prune s).Follows (conduct m idle) (fun _ _ => True) s := by
  show ((query m.workers.ids >>= _) s).Follows _ _ s
  rcases hids : m.workers.ids s.world with ⟨e | ids, w⟩
  · rw [State.query_bind_error hids]
    exact ⟨leads_listed hids, trivial⟩
  · rw [State.query_bind_ok hids]
    exact ⟨(conduct m idle).trans (leads_listed hids) (leads_forgotten _), trivial⟩

/-- A sweep lists the workers, judges them, and forgets those that are gone. -/
lemma follows_sweep (h : s.pool.IsKeyed) :
    (m.sweep s).Follows (conduct m idle) (fun _ _ => True) s := by
  show ((query m.workers.ids >>= _) s).Follows _ _ s
  rcases hids : m.workers.ids s.world with ⟨e | ids, w⟩
  · rw [State.query_bind_error hids]
    exact ⟨leads_listed hids, trivial⟩
  · rw [State.query_bind_ok hids]
    refine Act.Follows.earlier (t := { s with world := w }) ?_ (leads_listed hids)
    show ((m.judgeAll (m.now w) {} ids >>= _) { s with world := w }).Follows _ _ _
    refine Operation.follows_bind (follows_judgeAll _ {} ids h) (fun report t _ _ => ?_)
      fun _ _ _ => trivial
    have hprune : (m.prune.attempt t).Follows (conduct m idle) (fun _ _ => True) t :=
      Operation.follows_attempt follows_prune (fun _ _ _ => trivial) (fun _ _ _ => trivial)
        fun _ _ => trivial
    exact Operation.follows_bind hprune (fun _ _ _ _ => ⟨.refl, trivial⟩) fun _ _ _ => trivial

/-! ## Services -/

/-- Whether a call leaves the proxy alone if it fails, and forgets its errors if it does not. -/
def IsService (c : Call α) : Prop :=
  ∀ body q, (∃ e, c.finish body q = (.error e, q)) ∨ ∃ a, c.finish body q = (.ok a, q.resetErrors)

/-- A dispatch fails, or the task is assigned to the worker under an id that is not empty. -/
lemma finish_dispatch (p : Proxy) (t : Task) (body : Except CallFault (List UInt8)) (q : Proxy) :
    (∃ e, (p.dispatch t).finish body q = (.error e, q)) ∨
      ∃ remoteId, remoteId ≠ "" ∧ t.assignment = none ∧ (p.dispatch t).finish body q =
        (.ok { t with assignment := some ⟨p.id, remoteId⟩ }, q.resetErrors) := by
  simp only [Proxy.dispatch, Task.assign]
  cases Proxy.decoded Proxy.acknowledgement? body with
  | error fault => exact .inl ⟨_, rfl⟩
  | ok remoteId =>
    by_cases hempty : remoteId = ""
    · exact .inl ⟨_, if_pos hempty⟩
    · simp only [if_neg hempty]
      cases t.assignment with
      | none => exact .inr ⟨remoteId, hempty, rfl, rfl⟩
      | some a => exact .inl ⟨_, rfl⟩

/-- Handing a task over is a service. -/
lemma isService_dispatch (p : Proxy) (t : Task) : IsService (p.dispatch t) := by
  intro body q
  obtain h | ⟨remoteId, -, -, h⟩ := finish_dispatch p t body q
  · exact .inl h
  · exact .inr ⟨_, h⟩

/-- Telling the status of a task is a service. -/
lemma isService_taskStatus (p : Proxy) (remoteId : String) : IsService (p.taskStatus remoteId) := by
  intro body q
  simp only [Proxy.taskStatus]
  cases Proxy.decoded WorkerReport.read? body with
  | error fault => exact .inl ⟨_, rfl⟩
  | ok report => exact .inr ⟨report, rfl⟩

/-- A service, and the note about it. -/
lemma follows_service {c : Proxy → Call α} (hc : ∀ p, IsService (c p)) {n : Nat}
    (hn : n < s.pool.made.length) {f : Contact → Note} (hf : ∀ via, (f via).service? = some via) :
    ((call n c >>= fun a => note (fun s => f (s.pool.contact n)) >>= fun _ => pure a) s).Follows
      (conduct m idle) (fun _ _ => True) s := by
  rw [Operation.bind_apply]
  refine State.follows_call fun body t ht => ?_
  have hn' : n < t.pool.made.length := Nat.lt_of_lt_of_le hn (extends_of_leads ht).length
  obtain ⟨e, hfinish⟩ | ⟨a, hfinish⟩ := hc (s.pool.proxy n) body (t.pool.proxy n)
  · rw [hfinish, Pool.change_const n fun p => p, Pool.change_id]
    exact ⟨.refl, trivial⟩
  · rw [hfinish, Pool.change_const]
    have hcontact :=
      (Pool.extends_change (p := t.pool) (n := n) Proxy.resetErrors_name).contact n hn'
    have hmove : Move m idle t.ledger { t.ledger with
        pool := t.pool.change n Proxy.resetErrors
        journal := f ((t.pool.change n Proxy.resetErrors).contact n) :: t.journal } :=
      .served hn' (by rw [hcontact]; exact hf _)
    exact ⟨Relation.ReflTransGen.single hmove, trivial⟩

end Manager

/-! ## Everything a scheduler is asked to do with its workers -/

namespace Scheduler

open Manager (State conduct)

variable {ω : Type}

/-- What a scheduler is asked to do with its workers. -/
inductive Action
  | register (r : Registration)
  | deregister (id : String)
  | heartbeat (id : String)
  | select
  | find (id : String)
  | list
  | sweep
  | execute (t : Task)
  | ask (remoteId workerId : String)

namespace Action

/-- An action, without what it brings. -/
def run (c : Scheduler ω) : Action → Operation (State ω) Unit
  | register r => c.register r
  | deregister id => c.manager.removeWorker id
  | heartbeat id => do let _ ← c.manager.heartbeat id
  | select => do let _ ← c.manager.selectWorker
  | find id => do let _ ← c.manager.getWorker id
  | list => do let _ ← c.manager.listWorkers
  | sweep => do let _ ← c.manager.sweep
  | execute t => do let _ ← c.execute t
  | ask remoteId workerId => do let _ ← c.remoteStatus remoteId workerId

/-- Whether the weight of a worker that registers has 32 bits. -/
def isSized : Action → Bool
  | register r => r.weight < Dialect.bound32
  | _ => true

variable {c : Scheduler ω} {idle : ω → ω → Prop} {s : State ω}

/-- A task is handed over to a worker that was selected, in a selection and a service. -/
lemma follows_execute (t : Task) (h : s.pool.IsKeyed) :
    (c.execute t s).Follows (conduct c.manager idle) (fun _ _ => True) s := by
  refine Operation.follows_bind (Manager.follows_selectWorker h) (fun choice u _ hu => ?_)
    fun _ _ _ => trivial
  cases choice with
  | none => exact ⟨.refl, trivial⟩
  | some n =>
    exact Manager.follows_service (fun p => Manager.isService_dispatch p t) (hu n rfl)
      (f := fun via => .dispatched via t.id) fun _ => rfl

/-- A worker is asked about a task, in a reading and a service. -/
lemma follows_remoteStatus (remoteId workerId : String) (h : s.pool.IsKeyed) :
    (c.remoteStatus remoteId workerId s).Follows (conduct c.manager idle) (fun _ _ => True) s := by
  refine Operation.follows_bind (Manager.follows_getWorker workerId h) (fun n u _ hu => ?_)
    fun _ _ _ => trivial
  exact Manager.follows_service (fun p => Manager.isService_taskStatus p remoteId) (hu n rfl)
    (f := fun via => .reported via remoteId) fun _ => rfl

/-- **Every action makes moves.** -/
theorem follows (a : Action) (ha : a.isSized = true) (h : s.pool.IsKeyed) :
    (a.run c s).Follows (conduct c.manager idle) (fun _ _ => True) s := by
  cases a with
  | register r => exact Operation.follows_discard (Manager.follows_addWorker (of_decide_eq_true ha))
  | deregister id => exact Manager.follows_removeWorker id
  | heartbeat id => exact Operation.follows_discard (Manager.follows_heartbeat id)
  | select =>
    exact Operation.follows_discard ((Manager.follows_selectWorker h).mono fun _ _ _ => trivial)
  | find id =>
    exact Operation.follows_discard ((Manager.follows_getWorker id h).mono fun _ _ _ => trivial)
  | list => exact Operation.follows_discard (Manager.follows_listWorkers h)
  | sweep => exact Operation.follows_discard (Manager.follows_sweep h)
  | execute t => exact Operation.follows_discard (follows_execute t h)
  | ask remoteId workerId =>
    exact Operation.follows_discard (follows_remoteStatus remoteId workerId h)

end Action

/-- What can come of a state when actions are started in any order and take turns in any way, while
outside of them the world may change as `idle` says. -/
def Reaches (c : Scheduler ω) (idle : ω → ω → Prop) : State ω → Configuration (State ω) → Prop :=
  Configuration.Reachable (fun s t => ∃ w, idle s.world w ∧ t = { s with world := w })
    fun x => ∃ a : Action, a.isSized = true ∧ x = a.run c

namespace Reaches

variable {c : Scheduler ω} {idle : ω → ω → Prop} {s : State ω} {config : Configuration (State ω)}

/-- At first nothing has been done. -/
lemma refl : c.Reaches idle s ⟨s, []⟩ := Relation.ReflTransGen.refl

/-- An action is started. -/
lemma start (h : c.Reaches idle s config) (a : Action) (ha : a.isSized = true) :
    c.Reaches idle s (config.start (a.run c)) :=
  Relation.ReflTransGen.tail h (.start ⟨a, ha, rfl⟩)

/-- An operation that waits goes on with an outcome of its request. -/
lemma resume (h : c.Reaches idle s config) (i : Nat) (o : Http.Outcome) :
    c.Reaches idle s (config.resume i o) :=
  Relation.ReflTransGen.tail h (.resume i o)

/-- **Nothing but moves is ever made.** -/
theorem leads (h : c.Reaches idle s config) (hs : s.pool.IsKeyed) :
    (conduct c.manager idle).leads s config.state := by
  refine Configuration.Reachable.leads (fun t u htu => ?_) (fun x hx t ht => ?_) h
  · obtain ⟨w, hw, rfl⟩ := htu
    exact Manager.leads_of_move (.idle hw)
  · obtain ⟨a, ha, rfl⟩ := hx
    exact a.follows ha (Manager.isKeyed_of_leads ht hs)

end Reaches

/-! ## A small system -/

/-- A scheduler with everything in memory, for a minute, which evicts a worker as soon as it fails
a health check. -/
def strict : Scheduler Site where
  stores := ⟨Site.memoryWorkers (.ofSeconds 60), Site.memoryTasks, Site.now⟩
  settings := ⟨.ofSeconds 10, .ofSeconds 60, true, 1, .ofSeconds 5, .ofSeconds 5⟩
  rollback := false

/-- The state in which nothing has happened yet. -/
def initial : State Site where
  world := ⟨⟨.epoch, ⟨0⟩⟩, .empty, .empty, {}⟩
  balancer := .roundRobin 0

/-- The answer of a worker that is well: an empty JSON object. -/
def wellAnswer : Http.Outcome := .answered 200 [123, 125] true

/-- A worker that has registered is swept, with the given outcome of its health check. -/
def swept (o : Http.Outcome) : Configuration (State Site) :=
  (((⟨initial, []⟩ : Configuration (State Site)).start
    (Action.run strict (.register ⟨"w", "a:1", 3⟩))).start (Action.run strict .sweep)).resume 0 o

/-- The same, but the worker registers anew during its health check, at another address and with
another weight. -/
def moved (o : Http.Outcome) : Configuration (State Site) :=
  ((((⟨initial, []⟩ : Configuration (State Site)).start
    (Action.run strict (.register ⟨"w", "a:1", 3⟩))).start (Action.run strict .sweep)).start
      (Action.run strict (.register ⟨"w", "b:2", 9⟩))).resume 0 o

/-- The first of the two runs is one. -/
lemma reaches_swept {idle : Site → Site → Prop} (o : Http.Outcome) :
    strict.Reaches idle initial (swept o) :=
  ((Reaches.refl.start (.register ⟨"w", "a:1", 3⟩) rfl).start .sweep rfl).resume 0 o

/-- So is the second. -/
lemma reaches_moved {idle : Site → Site → Prop} (o : Http.Outcome) :
    strict.Reaches idle initial (moved o) :=
  (((Reaches.refl.start (.register ⟨"w", "a:1", 3⟩) rfl).start .sweep rfl).start
    (.register ⟨"w", "b:2", 9⟩) rfl).resume 0 o

end Scheduler

end ConversionScheduler
