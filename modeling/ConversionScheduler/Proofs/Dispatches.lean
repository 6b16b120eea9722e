import ConversionScheduler.Proofs.LiveRecords
import ConversionScheduler.Proofs.Submissions
/-!
# What a submission sends, and when it succeeds

A submission has one chance: the task is written, one worker is selected, and one request is sent to
it. Whoever looks while the request is on its way finds the task without an assignment. What the
client is told depends on the answer and on one more write: the task comes back assigned if and only
if both were as they should be.

## Main definitions

* `Manager.Selects` — a worker has been selected, and its record is the one that was read last.
* `Scheduler.Executes` — how far the search for a worker gets by itself, and how it goes on.
* `Scheduler.conclude` — what follows the search.

## Main results

* `Http.Request.taken?_eq_ok_iff`, `Proxy.settle_dispatch_eq_ok_iff` — the answers with which a
  worker takes a task.
* `Manager.selectWorker_reads` — the worker that is selected is one that was listed, and its record
  was read.
* `Scheduler.executes_execute` — every case of the search for a worker.
* `Scheduler.conclude_settle_ok_iff` — what has to be answered and written for a task to come back.
* `schedule_ok_iff` — the one request of a submission, and when the submission succeeds.
-/

namespace ConversionScheduler

open Manager (State)
open Manager.State (query call note count)

/-! ## Answers to a dispatch -/

namespace Proxy

/-- A body counts only if it is complete and its status is 200. -/
lemma answer_eq_ok_iff {url : Url} {o : Http.Outcome} {body : List UInt8} :
    answer url o = .ok body ↔ o = .answered 200 body true := by
  constructor
  · intro h
    cases o with
    | unanswered => exact absurd h (by simp [answer])
    | answered status octets complete =>
      rw [answer] at h
      split at h
      · exact absurd h (by simp)
      · rename_i hcomplete
        split at h
        · rename_i hstatus
          obtain rfl := Except.ok.inj h
          rw [hstatus, show complete = true by simpa using hcomplete]
        · exact absurd h (by simp)
  · rintro rfl
    simp [answer]

/-- A body is decoded if it arrived and can be read. -/
lemma decoded_eq_ok_iff {α : Type} {read : Json.Cursor → Option α}
    {body? : Except CallFault (List UInt8)} {a : α} :
    decoded read body? = .ok a ↔
      ∃ body, body? = .ok body ∧ Json.decodeOctets? read body = some a := by
  cases body? with
  | error fault => simp [decoded]
  | ok body => cases hread : Json.decodeOctets? read body <;> simp [decoded, hread]

/-- The endpoint is the address with the segments behind it, if the address is that of a URL. -/
lemma endpoint_eq_ok_iff {p : Proxy} {segments : List String} {url : Url} :
    p.endpoint segments = .ok url ↔
      ∃ url', Url.ofAddress? p.addr = .ok url' ∧ url'.append segments = url := by
  unfold endpoint
  cases Url.ofAddress? p.addr <;> simp

/-- There is a request if there is a URL to which it can be sent. -/
lemma request_eq_ok_iff {p : Proxy} {method : Http.Method} {segments : List String}
    {body : Option String} {r : Http.Request} : p.request method segments body = .ok r ↔
      ∃ url, p.endpoint segments = .ok url ∧ url.isSendable = true ∧ ⟨method, url, body⟩ = r := by
  unfold request
  cases p.endpoint segments with
  | error fault => simp
  | ok url => by_cases hsend : url.isSendable = true <;> simp [hsend]

end Proxy

/-- A worker takes a task with a complete answer whose status is 200 and whose body is an
acknowledgement, and with no other one. -/
lemma Http.Request.taken?_eq_ok_iff {r : Http.Request} {o : Http.Outcome} {remoteId : String} :
    r.taken? o = .ok remoteId ↔ ∃ body, o = .answered 200 body true ∧
      Json.decodeOctets? Proxy.acknowledgement? body = some remoteId := by
  simp only [taken?, Proxy.decoded_eq_ok_iff, Proxy.answer_eq_ok_iff]

/-- What a dispatch brings, exactly. -/
lemma Proxy.settle_dispatch_eq_ok_iff {p q : Proxy} {t f : Task} {r : Http.Request}
    {o : Http.Outcome} (ht : t.assignment = none) :
    ((p.dispatch t).settle r o q).1 = .ok f ↔ ∃ remoteId, r.taken? o = .ok remoteId ∧
      remoteId ≠ "" ∧ f = { t with assignment := some ⟨p.id, remoteId⟩ } := by
  unfold Call.settle Http.Request.taken?
  simp only [dispatch, Task.assign, ht]
  cases decoded acknowledgement? (answer r.url o) with
  | error fault => simp
  | ok remoteId => by_cases hempty : remoteId = "" <;> simp [hempty, eq_comm]

/-- The request of a dispatch goes to one path under the address of the worker, if that is one to
which a request can be sent. -/
lemma Proxy.request_dispatch_eq_ok_iff {p : Proxy} {t : Task} {request : Http.Request} :
    (p.dispatch t).request = .ok request ↔ ∃ url, Url.ofAddress? p.addr = .ok url ∧
      (url.append ["task"]).isSendable = true ∧
      request = ⟨.post, url.append ["task"], some (dispatchBody t)⟩ := by
  show p.request .post ["task"] (some (dispatchBody t)) = .ok request ↔ _
  rw [request_eq_ok_iff]
  constructor
  · rintro ⟨_, hurl, hsend, rfl⟩
    obtain ⟨url, haddr, rfl⟩ := endpoint_eq_ok_iff.mp hurl
    exact ⟨url, haddr, hsend, rfl⟩
  · rintro ⟨url, haddr, hsend, rfl⟩
    exact ⟨_, endpoint_eq_ok_iff.mpr ⟨url, haddr, rfl⟩, hsend, rfl⟩

/-- If no request can be made, the address is none to which one can be sent. -/
lemma Proxy.not_isSendable_of_request_dispatch {p : Proxy} {t : Task} {fault : TransportFault}
    (h : (p.dispatch t).request = .error fault) {url : Url}
    (hurl : Url.ofAddress? p.addr = .ok url) :
    (url.append ["task"]).isSendable = false := by
  by_contra hsend
  have hsent := request_dispatch_eq_ok_iff (t := t).mpr
    ⟨url, hurl, by simpa using hsend, rfl⟩
  exact absurd (h.symm.trans hsent) (by simp)

/-! ## Selecting a worker -/

namespace Balancer

/-- What is picked is one of the ids. -/
lemma mem_of_pick? {weights : Table String Nat} {slot : Nat} {ids : List String} {id : String}
    (h : pick? weights slot ids = some id) : id ∈ ids := by
  induction ids generalizing slot with
  | nil => exact absurd h (by simp [pick?])
  | cons id' ids ih =>
    simp only [pick?] at h
    split at h
    · obtain rfl := Option.some.inj h
      exact List.mem_cons_self ..
    · exact List.mem_cons_of_mem _ (ih h)

/-- The balancer chooses from the list. -/
lemma mem_of_select {b : Balancer} {ids : List String} {id : String}
    (h : (b.select ids).1 = some id) : id ∈ ids := by
  unfold select at h
  split at h
  · exact absurd h (by simp)
  · cases b with
    | roundRobin counter => exact List.mem_of_getElem? h
    | weighted counter weights => exact mem_of_pick? h

end Balancer

namespace Manager

variable {ω : Type} {m : Manager ω} {d : Conduct ω} {s u : State ω} {n : Nat}

/-- The worker that is selected is one of the list, and its record was the last thing to be
read.

**Proof sketch.** Induction on the rounds. The round that finds a record ends the selection with the
proxy of that record; a round that does not reads a store that the first one leads to, and leaves a
part of the list. -/
lemma selectFrom_reads (h : m.workers.Observes d) (hpool : s.pool.IsKeyed) {rounds : Nat}
    {ids : List String} (hrun : m.selectFrom rounds ids s = .finished (.ok (some n)) u) :
    ∃ id r w, id ∈ ids ∧ d.leads s.world w ∧ m.workers.get id w = (.ok r, u.world) ∧
      u.pool.contact n = ⟨n, r.id, r.addr⟩ := by
  induction rounds generalizing ids s with
  | zero =>
    have hnone := (Act.finished.inj hrun).1
    exact absurd hnone (by simp)
  | succ rounds ih =>
    rw [selectFrom, Operation.bind_apply] at hrun
    rcases hselect : s.balancer.select ids with ⟨choice, balancer⟩
    simp only [Operation.step, hselect, Act.andThen] at hrun
    cases choice with
    | none => exact absurd (Act.finished.inj hrun).1 (by simp)
    | some id =>
      have hid : id ∈ ids := Balancer.mem_of_select (by rw [hselect])
      change (m.find? id >>= _) _ = _ at hrun
      rw [Operation.bind_apply] at hrun
      have hget := h.perform (.get id) s.world
      rw [WorkerCall.perform, Query.map_apply] at hget
      obtain ⟨r, w, hread, hfind⟩ | ⟨e, w, hread, hfind | ⟨e', hfind⟩⟩ :=
        find?_cases m id { s with balancer := balancer }
      · rw [hfind] at hrun
        obtain ⟨hn, rfl⟩ := Act.finished.inj hrun
        obtain rfl := Option.some.inj (Except.ok.inj hn)
        exact ⟨id, r, s.world, hid, d.refl _, hread, (Pool.contact_resolve hpool r).2⟩
      · rw [hfind] at hrun
        have hworld : m.workers.get id s.world = (.error e, w) := hread
        rw [hworld] at hget
        obtain ⟨id', r, w', hid', hleads, hread', hcontact⟩ :=
          ih (s := { s with world := w, balancer := balancer }) hpool hrun
        exact ⟨id', r, w', (List.mem_filter.mp hid').1, d.trans hget hleads, hread', hcontact⟩
      · rw [hfind] at hrun
        exact absurd (Act.finished.inj hrun).1 (by simp)

/-- **The worker that is selected is one that was listed**, and its record was the last thing to be
read. -/
theorem selectWorker_reads (h : m.workers.Observes d) (hpool : s.pool.IsKeyed)
    (hrun : m.selectWorker s = .finished (.ok (some n)) u) :
    ∃ ids id r w, (m.workers.ids s.world).1 = .ok ids ∧ id ∈ ids ∧ d.leads s.world w ∧
      m.workers.get id w = (.ok r, u.world) ∧ u.pool.contact n = ⟨n, r.id, r.addr⟩ := by
  change (query m.workers.ids >>= _) s = _ at hrun
  have hlisted := h.perform .ids s.world
  rw [WorkerCall.perform, Query.map_apply] at hlisted
  rcases hids : m.workers.ids s.world with ⟨e | ids, w⟩
  · rw [State.query_bind_error hids] at hrun
    exact absurd (Act.finished.inj hrun).1 (by simp)
  · rw [State.query_bind_ok hids] at hrun
    rw [hids] at hlisted
    obtain ⟨id, r, w', hid, hleads, hread, hcontact⟩ :=
      selectFrom_reads (s := { s with world := w }) h hpool hrun
    exact ⟨ids, id, r, w', rfl, hid, d.trans hlisted hleads, hread, hcontact⟩

/-- A worker has been selected: it was listed, its record is live, and the proxy with number `n` is
for it at its address. -/
structure Selects (m : Manager (Faulty Site)) (b : WorkerBackend) (s : State (Faulty Site))
    (r : WorkerRecord) (n : Nat) (u : State (Faulty Site)) : Prop where
  selected : m.selectWorker s = .finished (.ok (some n)) u
  live : ∃ ids id, (m.workers.ids s.world).1 = .ok ids ∧ id ∈ ids ∧
    b.live? u.world.base id = some (.ok r)
  contact : u.pool.contact n = ⟨n, r.id, r.addr⟩

end Manager

/-! ## Submitting a task -/

namespace Scheduler

variable {ω : Type} {c : Scheduler ω} {t : Task} {s : State ω}

/-- How far the search for a worker gets by itself, and how it goes on. -/
inductive Executes (c : Scheduler ω) (t : Task) (s : State ω) :
    Act (State ω) (Except Failure Task) → Prop
  | unselected {e : Failure} {u : State ω}
    (selected : c.manager.selectWorker s = .finished (.error e) u) :
    Executes c t s (.finished (.error e) u)
  | unmanned {u : State ω} (selected : c.manager.selectWorker s = .finished (.ok none) u) :
    Executes c t s (.finished (.error (.reported .noWorkerAvailable)) u)
  | unsent {n : Nat} {u v : State ω} {fault : TransportFault}
    (selected : c.manager.selectWorker s = .finished (.ok (some n)) u)
    (requested : ((u.pool.proxy n).dispatch t).request = .error fault) (same : v.world = u.world) :
    Executes c t s (.finished
      (.error (.reported (.dispatchFailure ⟨(u.pool.proxy n).id, .transport fault⟩))) v)
  | sent {n : Nat} {u : State ω} {request : Http.Request}
    {resume : Http.Outcome → State ω → Act (State ω) (Except Failure Task)}
    (selected : c.manager.selectWorker s = .finished (.ok (some n)) u)
    (requested : ((u.pool.proxy n).dispatch t).request = .ok request)
    (settles : ∀ o u', ∃ v : State ω, v.world = u'.world ∧ resume o u' = .finished
      ((((u.pool.proxy n).dispatch t).settle request o (u'.pool.proxy n)).1.mapError .reported) v) :
    Executes c t s (.waiting request u resume)

/-- **Every case of the search for a worker.**

**Proof sketch.** Cases on the selection, which is over at once, and on whether the request to the
worker can be written. What its outcome settles is what the execution comes to. -/
theorem executes_execute (c : Scheduler ω) (t : Task) (s : State ω) :
    c.Executes t s (c.execute t s) := by
  obtain ⟨choice, u, hselect⟩ := Manager.selectWorker_finished c.manager s
  rw [execute, Operation.bind_apply, hselect]
  rcases choice with e | _ | n
  · exact .unselected hselect
  · exact .unmanned hselect
  show c.Executes t s (((call n fun p => p.dispatch t) >>= _) u)
  rw [Operation.bind_apply]
  cases hrequest : ((u.pool.proxy n).dispatch t).request with
  | error fault =>
    rw [Manager.State.call_of_fault hrequest]
    exact .unsent hselect hrequest rfl
  | ok request =>
    rw [Manager.State.call_of_request hrequest]
    refine .sent hselect hrequest fun o u' => ?_
    cases hsettle : (((u.pool.proxy n).dispatch t).settle request o (u'.pool.proxy n)).1 with
    | error e =>
      simp only [hsettle]
      exact ⟨_, by rfl, rfl⟩
    | ok f =>
      simp only [hsettle]
      exact ⟨_, by rfl, rfl⟩

/-- What follows the search for a worker. -/
def conclude (c : Scheduler ω) (t : Task) : Except Failure Task → Operation (State ω) Task
  | .ok assigned => do
    query (c.stores.tasks.update assigned)
    count fun m => { m with dispatched := m.dispatched + 1 }
    return assigned
  | .error (.reported e) => do
    count fun m => { m with dispatchFailures := m.dispatchFailures + 1 }
    c.rollBack t.id
    Operation.fail e
  | .error .crashed => Operation.stop .crashed

/-- A submission is the search for a worker between two writes, or one write and its undoing. -/
lemma schedule_of_add {w : ω} (h : c.stores.tasks.add t s.world = (.ok (), w)) :
    c.schedule t s = (c.execute t { s with world := w }).andThen fun r u => c.conclude t r u := by
  rw [schedule, Manager.State.query_bind_ok h, Operation.bind_apply, Operation.attempt,
    Act.andThen_assoc]
  congr 1
  funext r u
  rcases r with (e | ⟨⟩) | f <;> rfl

/-- Once the task is written, what follows is the search for a worker and what that leads to. -/
lemma schedule_of_written (h : (c.stores.tasks.add t s.world).1 = .ok ()) :
    c.schedule t s = (c.execute t { s with world := (c.stores.tasks.add t s.world).2 }).andThen
      fun r u => c.conclude t r u :=
  schedule_of_add (Prod.ext h rfl)

/-- Taking back a task that no worker took comes to an end by itself. -/
lemma rollBack_finished (c : Scheduler ω) (id : String) (s : State ω) :
    ∃ r u, c.rollBack id s = .finished r u := by
  unfold rollBack
  cases c.rollback with
  | false => exact ⟨_, _, rfl⟩
  | true =>
    show ∃ r u, ((query (c.stores.tasks.remove id)).attempt >>= _) s = _
    rcases hremove : c.stores.tasks.remove id s.world with ⟨(e | ⟨⟩) | a, w⟩ <;>
    · rw [Operation.bind_apply, Operation.attempt, Manager.State.query_eq hremove]
      exact ⟨_, _, rfl⟩

/-- A submission without a worker that takes the task comes to nothing. -/
lemma conclude_error (c : Scheduler ω) (t : Task) (e : Failure) (s : State ω) :
    ∃ e' u, c.conclude t (.error e) s = .finished (.error e') u := by
  cases e with
  | crashed => exact ⟨_, _, rfl⟩
  | reported e =>
    obtain ⟨u, hu⟩ : ∃ u : State ω, u = { s with
      metrics := { s.metrics with dispatchFailures := s.metrics.dispatchFailures + 1 } } := ⟨_, rfl⟩
    have hrun : c.conclude t (.error (.reported e)) s =
        (c.rollBack t.id >>= fun _ => Operation.fail e) u := by
      rw [hu]
      rfl
    obtain ⟨r, v, hrollback⟩ := rollBack_finished c t.id u
    rw [hrun, Operation.bind_apply, hrollback]
    cases r <;> exact ⟨_, _, rfl⟩

/-- A submission with a worker that takes the task succeeds if and only if the assignment is
written. -/
lemma conclude_ok (c : Scheduler ω) (t f : Task) (s : State ω) :
    ∃ result u, c.conclude t (.ok f) s = .finished result u ∧
      (∀ f', result = .ok f' ↔ f' = f ∧ (c.stores.tasks.update f s.world).1 = .ok ()) ∧
      ∀ e, result = .error e → (c.stores.tasks.update f s.world).1 = .error e := by
  show ∃ result u, (query (c.stores.tasks.update f) >>= _) s = _ ∧ _
  rcases hupdate : c.stores.tasks.update f s.world with ⟨e | ⟨⟩, w⟩
  · rw [Manager.State.query_bind_error hupdate]
    exact ⟨_, _, rfl, by simp⟩
  · rw [Manager.State.query_bind_ok hupdate]
    exact ⟨_, _, rfl, by simp [eq_comm], fun e he => absurd he (by simp)⟩

/-- **Once the answer of the worker is there** the submission succeeds if and only if the worker has
taken the task and the assignment is written.

**Proof sketch.** The call settles with a task just if the worker acknowledged it with an id. An
error stays one; a task is then written, and the submission succeeds just if the store does. -/
theorem conclude_settle_ok_iff (c : Scheduler ω) (ht : t.assignment = none) (p q : Proxy)
    (request : Http.Request) (o : Http.Outcome) (s : State ω) :
    ∃ result u,
      c.conclude t (((p.dispatch t).settle request o q).1.mapError .reported) s =
        .finished result u ∧
      ∀ f, result = .ok f ↔ ∃ body remoteId, o = .answered 200 body true ∧
        Json.decodeOctets? Proxy.acknowledgement? body = some remoteId ∧ remoteId ≠ "" ∧
        f = { t with assignment := some ⟨p.id, remoteId⟩ } ∧
        (c.stores.tasks.update f s.world).1 = .ok () := by
  have hiff := fun f => Proxy.settle_dispatch_eq_ok_iff (p := p) (q := q) (f := f) (r := request)
    (o := o) ht
  simp only [Http.Request.taken?_eq_ok_iff] at hiff
  cases hsettle : ((p.dispatch t).settle request o q).1 with
  | error e =>
    -- an error of the worker stays one, so there is no acknowledgement either
    obtain ⟨e', u, hconclude⟩ := c.conclude_error t (.reported e) s
    refine ⟨.error e', u, hconclude, fun f => ⟨fun h => absurd h (by simp), ?_⟩⟩
    rintro ⟨body, remoteId, ho, hbody, hne, hf, -⟩
    have hok := (hiff f).mpr ⟨remoteId, ⟨body, ho, hbody⟩, hne, hf⟩
    exact absurd (hsettle.symm.trans hok) (by simp)
  | ok f =>
    obtain ⟨result, u, hconclude, hresult, -⟩ := c.conclude_ok t f s
    obtain ⟨remoteId, ⟨body, ho, hbody⟩, hne, hf⟩ := (hiff f).mp hsettle
    refine ⟨result, u, hconclude, fun f' => ?_⟩
    rw [hresult f']
    constructor
    · rintro ⟨rfl, hupdate⟩
      exact ⟨body, remoteId, ho, hbody, hne, hf, hupdate⟩
    · rintro ⟨body', remoteId', ho', hbody', hne', hf', hupdate⟩
      have hok := (hiff f').mpr ⟨remoteId', ⟨body', ho', hbody'⟩, hne', hf'⟩
      obtain rfl := Except.ok.inj (hsettle.symm.trans hok)
      exact ⟨rfl, hupdate⟩

/-! ## A system with a worker -/

/-- The pool of the example has the proxy of its worker. -/
lemma isKeyed_staffed : staffed.pool.IsKeyed :=
  (Pool.isKeyed_empty.resolve ⟨"w", "a:1", .epoch, 3⟩).change Proxy.resetErrors_name 0

/-- The workers of the example are stored properly. -/
lemma isSound_staffed : (Config.registry {}).IsSound staffed.world.base := by
  show Table.IsProper _
  unfold Table.IsProper
  decide +kernel

end Scheduler

section Faults

variable {config : Config} {c : Scheduler (Faulty Site)} {s u : State (Faulty Site)} {t : Task}

/-- The worker that is selected has a live record, and a selection spares the tasks. -/
lemma selects_of_finished (hc : c.stores = (Site.stores config).withFaults)
    (hw : config.registry.IsSound s.world.base) (hpool : s.pool.IsKeyed) {n : Nat}
    (h : c.manager.selectWorker s = .finished (.ok (some n)) u) :
    ∃ r, c.manager.Selects config.registry s r n u := by
  have hb := Site.workers_stores config
  have hobserves : c.manager.workers.Observes (config.registry.fading fun _ => True).onBase := by
    show c.stores.workers.Observes _
    rw [hc]
    exact WorkerBackend.observes_fading hb
  obtain ⟨ids, id, r, w, hids, hid, hleads, hget, hcontact⟩ :=
    Manager.selectWorker_reads hobserves hpool h
  have hread : (Site.stores config).withFaults.workers.get id w = (.ok r, u.world) := by
    rw [← hc]
    exact hget
  obtain ⟨hlive, hsame⟩ := WorkerBackend.live?_of_get_withFaults hb (hleads.1 hw).1 hread
  exact ⟨r, h, ⟨ids, id, hids, hid, by rw [hsame, hlive]⟩, hcontact⟩

/-- Writing a task leaves the store of the workers sound. -/
lemma isSound_add (hc : c.stores = (Site.stores config).withFaults)
    (hw : config.registry.IsSound s.world.base) (t : Task) :
    config.registry.IsSound (c.stores.tasks.add t s.world).2.base := by
  have hfading : (config.registry.fading fun _ => True).leads s.world.base _ :=
    Site.fading_tasks_withFaults config (.add t) s.world
  rw [TaskCall.perform, Query.map_apply, ← hc] at hfading
  exact (hfading hw).1

/-- Selecting a worker leaves the tasks alone. -/
lemma contents?_of_selected (hc : c.stores = (Site.stores config).withFaults)
    (hs : config.tasks.IsUndisturbed s.world.base) {choice : Except Failure (Option Nat)}
    (h : c.manager.selectWorker s = .finished choice u) :
    config.tasks.IsUndisturbed u.world.base ∧
      config.tasks.contents? u.world.base = config.tasks.contents? s.world.base := by
  have hspared := Manager.observes_selectWorker (m := c.manager)
    (keepTasks_of_stores hc).workers.onWorld.upholds Manager.chooses_onWorld s
  rw [h] at hspared
  exact hspared hs

/-- When a worker has been selected, the task has been written. -/
lemma written_of_selected (hc : c.stores = (Site.stores config).withFaults)
    (hs : config.tasks.IsUndisturbed s.world.base)
    (hadd : (c.stores.tasks.add t s.world).1 = .ok ()) {choice : Except Failure (Option Nat)}
    (h : c.manager.selectWorker { s with world := (c.stores.tasks.add t s.world).2 } =
      .finished choice u) :
    config.tasks.IsUndisturbed u.world.base ∧ ∃ m, config.tasks.contents? s.world.base = some m ∧
      config.tasks.contents? u.world.base =
        some (Function.update m t.id
          (some (config.tasks.entry (t.toRecord (c.stores.now s.world))))) := by
  obtain ⟨hw, ⟨⟨e, he⟩, -⟩ | ⟨m, hm, -, hm'⟩⟩ :=
    (keepTasks_of_stores hc).add hs (Prod.ext hadd rfl)
  · exact absurd he (by simp)
  · obtain ⟨hu, hsame⟩ := contents?_of_selected
      (s := { s with world := (c.stores.tasks.add t s.world).2 }) hc hw h
    exact ⟨hu, m, hm, hsame.trans hm'⟩

/-- The record of a task can be read from its entry. -/
lemma TaskBackend.record?_of_accepts {b : TaskBackend} {r : TaskRecord} (h : b.Accepts r.userDef) :
    (b.entry r).record? r.id = .ok r := by
  cases b with
  | memory => rfl
  | redis _ => exact RedisTasks.record?_render h

/-- A task without an assignment that has been written is there, and is read as it is, when a worker
has been selected. -/
lemma read_of_selected (hc : c.stores = (Site.stores config).withFaults)
    (hs : config.tasks.IsUndisturbed s.world.base) (ht : t.assignment = none)
    (hadd : (c.stores.tasks.add t s.world).1 = .ok ()) {choice : Except Failure (Option Nat)}
    (h : c.manager.selectWorker { s with world := (c.stores.tasks.add t s.world).2 } =
      .finished choice u) :
    ∃ m, config.tasks.contents? u.world.base = some m ∧
      m t.id = some (config.tasks.entry (t.toRecord (c.stores.now s.world))) ∧
      (config.tasks.Accepts t.userDef →
        m.load t.id = .ok (t.toRecord (c.stores.now s.world))) ∧
      .ofRecord (t.toRecord (c.stores.now s.world)) = t := by
  obtain ⟨-, m, -, hm'⟩ := written_of_selected hc hs hadd h
  refine ⟨_, hm', Function.update_self .., fun hdata => ?_, ?_⟩
  · have hread := TaskBackend.record?_of_accepts (r := t.toRecord (c.stores.now s.world)) hdata
    rw [TaskContents.load, Function.update_self]
    exact hread
  · exact t.ofRecord_toRecord _ fun a ha => absurd (ht.symm.trans ha) (by simp)

/-- Without a request, the address in the record of the worker that was selected is one to which
none can be sent. -/
lemma not_isSendable_of_selected (hc : c.stores = (Site.stores config).withFaults)
    (hw : config.registry.IsSound s.world.base) (hpool : s.pool.IsKeyed) {n : Nat}
    (h : c.manager.selectWorker s = .finished (.ok (some n)) u) {fault : TransportFault}
    (hrequest : ((u.pool.proxy n).dispatch t).request = .error fault) :
    ∃ r, c.manager.Selects config.registry s r n u ∧
      ∀ url, Url.ofAddress? r.addr = .ok url → (url.append ["task"]).isSendable = false := by
  obtain ⟨r, hselects⟩ := selects_of_finished hc hw hpool h
  have haddr : (u.pool.proxy n).addr = r.addr := congrArg Contact.addr hselects.contact
  refine ⟨r, hselects, fun url hurl => ?_⟩
  exact Proxy.not_isSendable_of_request_dispatch hrequest (by rw [haddr]; exact hurl)

/-- The request goes to the path `task` under the address in the record of the worker that was
selected. -/
lemma request_of_selected (hc : c.stores = (Site.stores config).withFaults)
    (hw : config.registry.IsSound s.world.base) (hpool : s.pool.IsKeyed) {n : Nat}
    (h : c.manager.selectWorker s = .finished (.ok (some n)) u) {request : Http.Request}
    (hrequest : ((u.pool.proxy n).dispatch t).request = .ok request) :
    ∃ r url, c.manager.Selects config.registry s r n u ∧ (u.pool.proxy n).id = r.id ∧
      Url.ofAddress? r.addr = .ok url ∧
      request = ⟨.post, url.append ["task"], some (Proxy.dispatchBody t)⟩ := by
  obtain ⟨r, hselects⟩ := selects_of_finished hc hw hpool h
  have haddr : (u.pool.proxy n).addr = r.addr := congrArg Contact.addr hselects.contact
  obtain ⟨url, hurl, -, hsent⟩ := Proxy.request_dispatch_eq_ok_iff.mp hrequest
  rw [haddr] at hurl
  exact ⟨r, url, hselects, congrArg Contact.id hselects.contact, hurl, hsent⟩

/-- **A submission sends one request at most, and succeeds if and only if everything does.** It
comes to nothing without a request if the task cannot be written, if no worker is selected, or if no
request can be sent to the address of the one that is.

In any other case one request is sent. By then the task is in its store, without an assignment. The
request goes to the path `task` under the address in the live record of the worker that was
selected, and its body says which task it is about. Whatever happens until the answer comes, nothing
else is sent after that, and the submission succeeds if and only if the answer is a complete one
with status 200 and an acknowledgement with an id that is not empty, and the task can be written
with this assignment. What the client gets is then the task with this assignment and no other
change.

**Proof sketch.** Selecting a worker neither waits nor writes anything about tasks, and the last
thing it reads is the record of the worker. What follows the answer is one update or one removal. -/
theorem schedule_ok_iff (hc : c.stores = (Site.stores config).withFaults)
    (hs : config.tasks.IsUndisturbed s.world.base) (hw : config.registry.IsSound s.world.base)
    (hpool : s.pool.IsKeyed) (ht : t.assignment = none) :
    let s₁ : State (Faulty Site) := { s with world := (c.stores.tasks.add t s.world).2 }
    (∃ e s', c.schedule t s = .finished (.error e) s' ∧
        ((∃ e', (c.stores.tasks.add t s.world).1 = .error e') ∨
          (∀ n u, c.manager.selectWorker s₁ ≠ .finished (.ok (some n)) u) ∨
          ∃ r n u, c.manager.Selects config.registry s₁ r n u ∧
            ∀ url, Url.ofAddress? r.addr = .ok url → (url.append ["task"]).isSendable = false)) ∨
      ∃ r n u url resume, (c.stores.tasks.add t s.world).1 = .ok () ∧
        c.manager.Selects config.registry s₁ r n u ∧ Url.ofAddress? r.addr = .ok url ∧
        c.schedule t s = .waiting ⟨.post, url.append ["task"],
          some (Json.render (.object [("taskId", .string t.id), ("taskType", .string t.taskType),
            ("taskSubType", .string t.subType), ("taskDetail", t.userDef)]))⟩ u resume ∧
        (∃ m, config.tasks.contents? u.world.base = some m ∧
          m t.id = some (config.tasks.entry (t.toRecord (c.stores.now s.world))) ∧
          (config.tasks.Accepts t.userDef →
            m.load t.id = .ok (t.toRecord (c.stores.now s.world))) ∧
          .ofRecord (t.toRecord (c.stores.now s.world)) = t) ∧
        ∀ o u', ∃ result s', resume o u' = .finished result s' ∧
          ∀ f, result = .ok f ↔ ∃ body remoteId, o = .answered 200 body true ∧
            Json.decodeOctets? Proxy.acknowledgement? body = some remoteId ∧ remoteId ≠ "" ∧
            f = { t with assignment := some ⟨r.id, remoteId⟩ } ∧
            (c.stores.tasks.update f u'.world).1 = .ok () := by
  intro s₁
  rcases hadd : (c.stores.tasks.add t s.world).1 with e | ⟨⟩
  · have hrun : c.schedule t s = .finished (.error e) s₁ := by
      rw [Scheduler.schedule, Manager.State.query_bind_error (Prod.ext hadd rfl)]
    exact .inl ⟨e, _, hrun, .inl ⟨e, rfl⟩⟩
  have hw₁ : config.registry.IsSound s₁.world.base := isSound_add hc hw t
  have hexecutes := c.executes_execute t s₁
  rw [Scheduler.schedule_of_written hadd]
  generalize c.execute t s₁ = act at hexecutes ⊢
  cases hexecutes with
  | @unselected e u selected =>
    obtain ⟨e', v, hconclude⟩ := c.conclude_error t e u
    refine .inl ⟨e', v, hconclude, .inr (.inl fun n u' h => ?_)⟩
    exact absurd (Act.finished.inj (selected.symm.trans h)).1 (by simp)
  | @unmanned u selected =>
    obtain ⟨e', v, hconclude⟩ := c.conclude_error t (.reported .noWorkerAvailable) u
    refine .inl ⟨e', v, hconclude, .inr (.inl fun n u' h => ?_)⟩
    exact absurd (Act.finished.inj (selected.symm.trans h)).1 (by simp)
  | @unsent n u v fault selected requested same =>
    obtain ⟨e', v', hconclude⟩ := c.conclude_error t
      (.reported (.dispatchFailure ⟨(u.pool.proxy n).id, .transport fault⟩)) v
    obtain ⟨r, hselects, hnot⟩ := not_isSendable_of_selected hc hw₁ hpool selected requested
    exact .inl ⟨e', v', hconclude, .inr (.inr ⟨r, n, u, hselects, hnot⟩)⟩
  | @sent n u request resume selected requested settles =>
    obtain ⟨r, url, hselects, hid, hurl, rfl⟩ :=
      request_of_selected hc hw₁ hpool selected requested
    refine .inr ⟨r, n, u, url, _, rfl, hselects, hurl, rfl,
      read_of_selected hc hs ht hadd selected, fun o u' => ?_⟩
    -- the answer decides, and then the second write
    obtain ⟨v, hworld, hresume⟩ := settles o u'
    obtain ⟨result, s', hconclude, hiff⟩ := c.conclude_settle_ok_iff ht (u.pool.proxy n)
      (u'.pool.proxy n) ⟨.post, url.append ["task"], some (Proxy.dispatchBody t)⟩ o v
    rw [hid, hworld] at hiff
    refine ⟨result, s', ?_, hiff⟩
    rw [hresume]
    exact hconclude

/-- The worker that is there is asked to take the task, and with its acknowledgement the submission
succeeds. -/
theorem schedule_ok_of_acceptance :
    TaskBackend.memory.IsUndisturbed Scheduler.staffed.world.base ∧
      (Config.registry {}).IsSound Scheduler.staffed.world.base ∧
      Scheduler.staffed.pool.IsKeyed ∧ Scheduler.newTask.assignment = none ∧
      ∃ request u resume,
        (Scheduler.basic false).schedule Scheduler.newTask Scheduler.staffed =
          .waiting request u resume ∧
        request.method = .post ∧ request.url.text = "http://a:1/task" ∧
        ∃ s' body, resume Scheduler.acceptance u =
            .finished (.ok { Scheduler.newTask with assignment := some ⟨"w", "r"⟩ }) s' ∧
          Scheduler.acceptance = .answered 200 body true ∧
          Json.decodeOctets? Proxy.acknowledgement? body = some "r" ∧
          ((Scheduler.basic false).stores.tasks.update
            { Scheduler.newTask with assignment := some ⟨"w", "r"⟩ } u.world).1 = .ok () := by
  refine ⟨trivial, Scheduler.isSound_staffed, Scheduler.isKeyed_staffed, rfl, ?_⟩
  have hsent : ((Scheduler.basic false).schedule Scheduler.newTask
      Scheduler.staffed).request?.map (fun r => (r.method, r.url.text)) =
        some (.post, "http://a:1/task") := by
    decide +kernel
  have htaken : (((Scheduler.basic false).schedule Scheduler.newTask Scheduler.staffed).run
      fun _ => Scheduler.acceptance).1 =
        .ok { Scheduler.newTask with assignment := some ⟨"w", "r"⟩ } := by
    decide +kernel
  obtain ⟨e, s', hrun, -⟩ | ⟨r, n, u, url, resume, -, -, -, hrun, -, hends⟩ :=
    schedule_ok_iff (c := .basic false)
      (show (Scheduler.basic false).stores = (Site.stores {}).withFaults from rfl)
      trivial Scheduler.isSound_staffed Scheduler.isKeyed_staffed
      (show Scheduler.newTask.assignment = none from rfl)
  · rw [hrun] at hsent
    exact absurd hsent (by simp [Act.request?])
  · obtain ⟨result, s', hresume, hiff⟩ := hends Scheduler.acceptance u
    rw [hrun] at hsent
    rw [hrun, Act.run, hresume] at htaken
    obtain ⟨hmethod, hurl⟩ := Prod.mk.inj (Option.some.inj hsent)
    have hresult : result = .ok { Scheduler.newTask with assignment := some ⟨"w", "r"⟩ } := htaken
    obtain ⟨body, remoteId, ho, hbody, -, hf, hupdate⟩ := (hiff _).mp hresult
    obtain ⟨-, rfl⟩ := Assignment.mk.inj (Option.some.inj (congrArg Task.assignment hf))
    rw [hresult] at hresume
    exact ⟨_, u, resume, hrun, hmethod, hurl, s', body, hresume, ho, hbody, hupdate⟩

end Faults

end ConversionScheduler
